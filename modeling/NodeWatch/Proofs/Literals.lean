/-
NodeWatch.Proofs.Literals — how integers are spelled.

Two kinds of text are read as integers.  A string is read as a signed word if
there is a signed literal in it with nothing but blanks around it, and the
value of the literal fits the word (`signed?_trim_eq_some_iff`); it is read as
an unsigned number in the same way, of a literal that may have a plus but no
minus (`unsigned?_trim_eq_some_iff`).

A JSON value is read as an unsigned integer if it is digits, the first of them
zero only where it is alone, with neither sign nor point nor exponent, and
their value fits a word (`readValue_unsigned_iff`).  Whatever has a sign, a
point or an exponent is another kind of number from then on, even where its
value is an integer.
-/
import Mathlib.Data.List.TakeWhile
import NodeWatch.Json.Reader
import NodeWatch.Text.Blank

namespace NodeWatch

namespace Text

/-! ## 1. Blanks -/

/-- Whether some characters are all blank. -/
def Blank (cs : List Char) : Prop :=
  ∀ c ∈ cs, isBlank c = true

theorem dropWhile_isBlank_append {before rest : List Char} (blank : Blank before)
    (begins : ∀ c ∈ rest.head?, isBlank c = false) :
    (before ++ rest).dropWhile isBlank = rest := by
  rw [List.dropWhile_append_of_pos blank]
  cases rest with
  | nil => rfl
  | cons c r => exact List.dropWhile_cons_of_neg (by simp [begins c rfl])

/-- What stands between blanks is what trimming leaves. -/
theorem trim_append {before core after : List Char} (blank : Blank before) (blank' : Blank after)
    (inhabited : core ≠ []) (dark : ∀ c ∈ core, isBlank c = false) :
    trim (before ++ (core ++ after)) = core := by
  have first : (before ++ (core ++ after)).dropWhile isBlank = core ++ after := by
    refine dropWhile_isBlank_append blank ?_
    intro c head
    rw [List.head?_append, List.head?_eq_some_head inhabited] at head
    cases head
    exact dark _ (List.head_mem inhabited)
  have last : (after.reverse ++ core.reverse).dropWhile isBlank = core.reverse := by
    refine dropWhile_isBlank_append (fun c member => blank' c (List.mem_reverse.1 member)) ?_
    intro c head
    exact dark c (List.mem_reverse.1 (List.mem_of_mem_head? head))
  rw [trim, first, List.reverse_append, last, List.reverse_reverse]

/-- Trimming takes nothing but blanks. -/
theorem exists_trim (cs : List Char) :
    ∃ before after, cs = before ++ (trim cs ++ after) ∧ Blank before ∧ Blank after := by
  let rest := cs.dropWhile isBlank
  refine ⟨cs.takeWhile isBlank, (rest.reverse.takeWhile isBlank).reverse, ?_, ?_, ?_⟩
  · have tail : trim cs ++ (rest.reverse.takeWhile isBlank).reverse = rest := by
      rw [trim, ← List.reverse_append, List.takeWhile_append_dropWhile, List.reverse_reverse]
    rw [tail, List.takeWhile_append_dropWhile]
  · intro c member
    exact List.mem_takeWhile_imp member
  · intro c member
    exact List.mem_takeWhile_imp (List.mem_reverse.1 member)

theorem isBlank_of_isDigit {c : Char} (digit : c.isDigit = true) : isBlank c = false := by
  obtain ⟨low, high⟩ := Char.isDigit_iff_toNat.1 digit
  have low' : 48 ≤ c.toNat := low
  have high' : c.toNat ≤ 57 := high
  simp only [isBlank, Bool.or_eq_false_iff, Bool.and_eq_false_iff, decide_eq_false_iff_not,
    beq_eq_false_iff_ne]
  omega

/-! ## 2. Signed literals -/

/-- Digits, and the number that they stand for. -/
structure Digits (cs : List Char) (n : Nat) : Prop where
  inhabited : cs ≠ []
  digits : cs.all Char.isDigit = true
  value : Nat.ofDigitChars 10 cs 0 = n

/-- Digits, which a sign may precede, and the number that they stand for. -/
inductive SignedLiteral : List Char → Int → Prop where
  | plain {digits : List Char} {n : Nat} : Digits digits n → SignedLiteral digits n
  | plus {digits : List Char} {n : Nat} : Digits digits n → SignedLiteral ('+' :: digits) n
  | minus {digits : List Char} {n : Nat} :
    Digits digits n → SignedLiteral ('-' :: digits) (-(n : Int))

/-- Whether a text spells a signed word: a literal of it, and blanks. -/
def SpellsSigned (cs : List Char) (i : Int64) : Prop :=
  ∃ before literal after, cs = before ++ (literal ++ after) ∧ Blank before ∧ Blank after ∧
    SignedLiteral literal i.toInt

theorem Digits.dark {cs : List Char} {n : Nat} (spelled : Digits cs n) :
    ∀ c ∈ cs, isBlank c = false :=
  fun c member => isBlank_of_isDigit (List.all_eq_true.1 spelled.digits c member)

theorem SignedLiteral.dark {literal : List Char} {value : Int}
    (spelled : SignedLiteral literal value) :
    literal ≠ [] ∧ ∀ c ∈ literal, isBlank c = false := by
  cases spelled with
  | plain digits => exact ⟨digits.inhabited, digits.dark⟩
  | plus digits =>
    refine ⟨List.cons_ne_nil _ _, List.forall_mem_cons.2 ⟨rfl, digits.dark⟩⟩
  | minus digits =>
    refine ⟨List.cons_ne_nil _ _, List.forall_mem_cons.2 ⟨rfl, digits.dark⟩⟩

theorem natural?_eq_some_iff {cs : List Char} {n : Nat} : natural? cs = some n ↔ Digits cs n := by
  unfold natural?
  constructor
  · intro found
    split at found
    · next spelled => exact ⟨spelled.1, spelled.2, Option.some.inj found⟩
    · cases found
  · rintro ⟨inhabited, digits, rfl⟩
    exact if_pos ⟨inhabited, digits⟩

theorem not_digits_sign {c : Char} {cs : List Char} {n : Nat} (sign : c.isDigit = false) :
    ¬ Digits (c :: cs) n := by
  rintro ⟨-, digits, -⟩
  simp [sign] at digits

/-- A number that fits a word is that of just one word. -/
theorem word_eq_some_iff (value : Option Int) {i : Int64} :
    (value.filter fun n => decide (Word.FitsSigned n)).map Int64.ofInt = some i ↔
      value = some i.toInt := by
  have fits : Word.FitsSigned i.toInt := ⟨Int64.le_toInt i, Int64.toInt_lt i⟩
  cases value with
  | none => simp
  | some n =>
    by_cases h : Word.FitsSigned n
    · have kept := Int64.toInt_ofInt_of_le h.1 h.2
      simp only [Option.filter_some, h, decide_true, if_true, Option.map_some, Option.some_inj]
      rw [← Int64.toInt_inj, kept]
    · have other : n ≠ i.toInt := fun same => h (same ▸ fits)
      simp [Option.filter_some, h, other]

/-- A text is read as a signed word just if it is a literal of it. -/
theorem signed?_eq_some_iff {cs : List Char} {i : Int64} :
    signed? cs = some i ↔ SignedLiteral cs i.toInt := by
  unfold signed?
  rw [word_eq_some_iff]
  generalize i.toInt = value
  split
  · next digits =>
    simp only [Option.map_eq_some_iff, natural?_eq_some_iff]
    constructor
    · rintro ⟨n, spelled, rfl⟩
      exact .plus spelled
    · intro spelled
      cases spelled with
      | plain none => exact absurd none (not_digits_sign rfl)
      | plus spelled => exact ⟨_, spelled, rfl⟩
  · next digits =>
    simp only [Option.map_eq_some_iff, Option.bind_eq_bind, Option.bind_eq_some_iff,
      natural?_eq_some_iff]
    constructor
    · rintro ⟨_, ⟨n, spelled, lifted⟩, rfl⟩
      cases lifted
      exact .minus spelled
    · intro spelled
      cases spelled with
      | plain none => exact absurd none (not_digits_sign rfl)
      | minus spelled => exact ⟨_, ⟨_, spelled, rfl⟩, rfl⟩
  · next no_plus no_minus =>
    simp only [Option.map_eq_some_iff, natural?_eq_some_iff]
    constructor
    · rintro ⟨n, spelled, rfl⟩
      exact .plain spelled
    · intro spelled
      cases spelled with
      | plain spelled => exact ⟨_, spelled, rfl⟩
      | plus spelled => exact absurd rfl (no_plus _)
      | minus spelled => exact absurd rfl (no_minus _)

/-- What is read of a trimmed text is what the text spells. -/
theorem signed?_trim_eq_some_iff {cs : List Char} {i : Int64} :
    signed? (trim cs) = some i ↔ SpellsSigned cs i := by
  rw [signed?_eq_some_iff]
  constructor
  · intro spelled
    obtain ⟨before, after, place, blank, blank'⟩ := exists_trim cs
    exact ⟨before, trim cs, after, place, blank, blank', spelled⟩
  · rintro ⟨before, literal, after, rfl, blank, blank', spelled⟩
    obtain ⟨inhabited, dark⟩ := spelled.dark
    rwa [trim_append blank blank' inhabited dark]

/-! ## 3. Unsigned literals -/

/-- Digits, which a plus may precede, and the number that they stand for. -/
inductive UnsignedLiteral : List Char → Nat → Prop where
  | plain {digits : List Char} {n : Nat} : Digits digits n → UnsignedLiteral digits n
  | plus {digits : List Char} {n : Nat} : Digits digits n → UnsignedLiteral ('+' :: digits) n

/-- Whether a text spells an unsigned number: a literal of it, and blanks. -/
def SpellsUnsigned (cs : List Char) (n : Nat) : Prop :=
  ∃ before literal after, cs = before ++ (literal ++ after) ∧ Blank before ∧ Blank after ∧
    UnsignedLiteral literal n

theorem UnsignedLiteral.dark {literal : List Char} {n : Nat} (spelled : UnsignedLiteral literal n) :
    literal ≠ [] ∧ ∀ c ∈ literal, isBlank c = false := by
  cases spelled with
  | plain digits => exact ⟨digits.inhabited, digits.dark⟩
  | plus digits => exact ⟨List.cons_ne_nil _ _, List.forall_mem_cons.2 ⟨rfl, digits.dark⟩⟩

/-- A text is read as an unsigned number just if it is a literal of it. -/
theorem unsigned?_eq_some_iff {limit : Nat} {cs : List Char} {n : Nat} :
    unsigned? limit cs = some n ↔ UnsignedLiteral cs n ∧ n < limit := by
  unfold unsigned?
  simp only [Option.filter_eq_some_iff, decide_eq_true_eq, natural?_eq_some_iff]
  refine and_congr_left fun _ => ?_
  split
  · constructor
    · intro spelled
      exact .plus spelled
    · intro spelled
      cases spelled with
      | plain none => exact absurd none (not_digits_sign rfl)
      | plus spelled => exact spelled
  · next no_plus =>
    constructor
    · intro spelled
      exact .plain spelled
    · intro spelled
      cases spelled with
      | plain spelled => exact spelled
      | plus spelled => exact absurd rfl (no_plus _)

/-- What is read of a trimmed text is what the text spells. -/
theorem unsigned?_trim_eq_some_iff {limit : Nat} {cs : List Char} {n : Nat} :
    unsigned? limit (trim cs) = some n ↔ SpellsUnsigned cs n ∧ n < limit := by
  rw [unsigned?_eq_some_iff]
  refine and_congr_left fun _ => ?_
  constructor
  · intro spelled
    obtain ⟨before, after, place, blank, blank'⟩ := exists_trim cs
    exact ⟨before, trim cs, after, place, blank, blank', spelled⟩
  · rintro ⟨before, literal, after, rfl, blank, blank', spelled⟩
    obtain ⟨inhabited, dark⟩ := spelled.dark
    rwa [trim_append blank blank' inhabited dark]

/-- A text is not read just if no number that fits is spelled in it. -/
theorem unsigned?_trim_eq_none_iff {limit : Nat} {cs : List Char} :
    unsigned? limit (trim cs) = none ↔ ∀ n, SpellsUnsigned cs n → limit ≤ n := by
  simp only [Option.eq_none_iff_forall_ne_some, ne_eq, unsigned?_trim_eq_some_iff, not_and,
    Nat.not_lt]

end Text

/-! ## 4. Unsigned integers -/

namespace Json

/-- Digits as an integer is written in them: zero comes first only where it is
alone. -/
inductive Canonical : List Char → Prop where
  | zero : Canonical ['0']
  | positive {c : Char} {cs : List Char} : c.isDigit = true → c ≠ '0' →
    cs.all Char.isDigit = true → Canonical (c :: cs)

/-- A number is written as an integer is.  By induction on its tenth, which is
written in all digits but the last. -/
theorem canonical_toDigits (n : Nat) : Canonical (Nat.toDigits 10 n) := by
  induction n using Nat.strongRecOn with
  | ind n ih =>
    by_cases small : n < 10
    · rw [Nat.toDigits_of_lt_base small]
      by_cases none : n = 0
      · rw [none]
        exact .zero
      · have digit : ∀ m < 10, m ≠ 0 → m.digitChar.isDigit = true ∧ m.digitChar ≠ '0' := by
          decide
        obtain ⟨first, other⟩ := digit n small none
        exact .positive first other rfl
    · have place : Nat.toDigits 10 n = Nat.toDigits 10 (n / 10) ++ [(n % 10).digitChar] :=
        Nat.toDigits_of_base_le (by decide) (by omega)
      have last : (n % 10).digitChar.isDigit = true := by
        rw [Nat.isDigit_digitChar, decide_eq_true (Nat.mod_lt n (by decide))]
      have tenth := ih (n / 10) (by omega)
      have value := Nat.ofDigitChars_ten_toDigits (n := n / 10)
      rw [place]
      generalize Nat.toDigits 10 (n / 10) = digits at tenth value
      cases tenth with
      | zero =>
        have zero : n / 10 = 0 := value.symm
        omega
      | positive first other all =>
        exact .positive first other (by simp [all, last])

/-- Whether no number goes on with a text. -/
def EndsNumber (rest : List Char) : Prop :=
  ∀ c ∈ rest.head?, c.isDigit = false ∧ c ≠ '.' ∧ c ≠ 'e' ∧ c ≠ 'E'

/-- Whether a text begins with an unsigned integer that fits a word, and `rest`
is what comes after it. -/
def BeginsUnsigned (cs : List Char) (n : UInt64) (rest : List Char) : Prop :=
  ∃ digits, cs = digits ++ rest ∧ Canonical digits ∧ Nat.ofDigitChars 10 digits 0 = n.toNat ∧
    EndsNumber rest

theorem le_ofDigitChars (cs : List Char) (total : Nat) : total ≤ Nat.ofDigitChars 10 cs total := by
  induction cs generalizing total with
  | nil => exact Nat.le_refl _
  | cons c rest ih =>
    rw [Nat.ofDigitChars_cons]
    have more := ih (10 * total + (c.toNat - '0'.toNat))
    omega

/-- Where there is room for all digits, all are gathered. -/
theorem gather_of_lt {limit total : Nat} (taken : Nat) {digits rest : List Char}
    (all : digits.all Char.isDigit = true) (stop : startsWithDigit rest = false)
    (room : Nat.ofDigitChars 10 digits total < limit) :
    gather limit total taken (digits ++ rest) =
      (Nat.ofDigitChars 10 digits total, taken + digits.length, rest) := by
  induction digits generalizing total taken with
  | nil =>
    cases rest with
    | nil => rfl
    | cons c rest =>
      have other : c.isDigit = false := stop
      simp [gather, other]
  | cons c digits ih =>
    rw [List.all_cons, Bool.and_eq_true] at all
    rw [Nat.ofDigitChars_cons] at room ⊢
    have value : 10 * total + (c.toNat - '0'.toNat) = total * 10 + digit c := by
      rw [digit]
      omega
    have next := le_ofDigitChars digits (10 * total + (c.toNat - '0'.toNat))
    rw [value] at room next ⊢
    have one : total * 10 + digit c < limit := by omega
    rw [List.cons_append, gather, if_pos (by simp [all.1, one]), ih (taken + 1) all.2 room,
      List.length_cons]
    simp [Nat.add_comm, Nat.add_left_comm]

/-- What is gathered is the digits, if no digit is left. -/
theorem gather_eq {limit total taken : Nat} {cs : List Char} (small : total < limit)
    (stop : startsWithDigit (gather limit total taken cs).2.2 = false) :
    ∃ digits, cs = digits ++ (gather limit total taken cs).2.2 ∧
      digits.all Char.isDigit = true ∧
      (gather limit total taken cs).1 = Nat.ofDigitChars 10 digits total ∧
      Nat.ofDigitChars 10 digits total < limit := by
  induction cs generalizing total taken with
  | nil => exact ⟨[], rfl, rfl, rfl, small⟩
  | cons c rest ih =>
    unfold gather at stop ⊢
    split
    · next goes =>
      rw [if_pos goes] at stop
      rw [Bool.and_eq_true, decide_eq_true_eq] at goes
      obtain ⟨digits, place, all, value, room⟩ := ih goes.2 stop
      have first : Nat.ofDigitChars 10 (c :: digits) total =
          Nat.ofDigitChars 10 digits (total * 10 + digit c) := by
        rw [Nat.ofDigitChars_cons, digit, Nat.mul_comm]
      refine ⟨c :: digits, ?_, ?_, ?_, ?_⟩
      · rw [List.cons_append, ← place]
      · rw [List.all_cons, goes.1, all]
        rfl
      · rw [value, first]
      · rw [first]
        exact room
    · exact ⟨[], rfl, rfl, rfl, small⟩

theorem startsWithDigit_of_ends {rest : List Char} (ends : EndsNumber rest) :
    startsWithDigit rest = false := by
  cases rest with
  | nil => rfl
  | cons c r => exact (ends c rfl).1

/-! ### Whatever else a number has makes a double of it -/

/-- Whether what is read, if anything is, is a double. -/
def ReadsDouble (read : Except Stop (Json × List Char)) : Prop :=
  ∀ v rest, read = .ok (v, rest) → ∃ x, v = .number (.double x)

theorem readsDouble_finishDouble (negative : Bool) (significand : Nat) (exponent : Int)
    (cs : List Char) : ReadsDouble (finishDouble negative significand exponent cs) := by
  intro v rest read
  unfold finishDouble at read
  split at read
  · cases read
    exact ⟨_, rfl⟩
  · cases read

theorem readsDouble_readExponent (negative : Bool) (significand : Nat) (exponent : Int)
    (cs : List Char) : ReadsDouble (readExponent negative significand exponent cs) := by
  intro v rest read
  unfold readExponent at read
  split at read
  split at read
  · cases read
  · split at read
    · cases read
    · dsimp only at read
      split at read
      · split at read
        · cases read
        · cases read
          exact ⟨_, rfl⟩
      · exact readsDouble_finishDouble _ _ _ _ v rest read

theorem readsDouble_readTail (negative : Bool) (significand : Nat) (exponent : Int)
    (cs : List Char) : ReadsDouble (readTail negative significand exponent cs) := by
  unfold readTail
  split
  · exact readsDouble_readExponent _ _ _ _
  · exact readsDouble_readExponent _ _ _ _
  · exact readsDouble_finishDouble _ _ _ _

theorem readsDouble_readFraction (negative : Bool) (significand : Nat) (exponent : Int)
    (cs : List Char) : ReadsDouble (readFraction negative significand exponent cs) := by
  intro v rest read
  unfold readFraction at read
  dsimp only at read
  split at read
  · exact readsDouble_readTail _ _ _ _ v rest read
  · split at read
    · cases read
    · exact readsDouble_readTail _ _ _ _ v rest read

theorem ReadsDouble.not_unsigned {read : Except Stop (Json × List Char)} (double : ReadsDouble read)
    {n : UInt64} {rest : List Char} : read ≠ .ok (.number (.unsigned n), rest) := by
  intro same
  obtain ⟨x, other⟩ := double _ _ same
  cases other

/-! ### Numbers -/

theorem integer_eq_unsigned_iff {negative : Bool} {significand : Nat} {n : UInt64} :
    integer negative significand = .unsigned n ↔
      negative = false ∧ UInt64.ofNat significand = n := by
  unfold integer
  cases negative with
  | true =>
    simp only [if_true]
    split <;> simp
  | false => simp

/-- What comes after the integer digits decides whether the number is an
integer. -/
theorem readParts_eq_unsigned_iff {negative : Bool} {significand : Nat} {cs rest : List Char}
    {n : UInt64} (stop : startsWithDigit cs = false) :
    readNumber.readParts negative significand cs = .ok (.number (.unsigned n), rest) ↔
      (negative = false ∧ UInt64.ofNat significand = n) ∧ cs = rest ∧ EndsNumber cs := by
  unfold readNumber.readParts
  split
  · constructor
    · intro read
      exact absurd read (readsDouble_readFraction _ _ _ _).not_unsigned
    · rintro ⟨-, -, ends⟩
      exact absurd rfl (ends _ rfl).2.1
  · constructor
    · intro read
      exact absurd read (readsDouble_readExponent _ _ _ _).not_unsigned
    · rintro ⟨-, -, ends⟩
      exact absurd rfl (ends _ rfl).2.2.1
  · constructor
    · intro read
      exact absurd read (readsDouble_readExponent _ _ _ _).not_unsigned
    · rintro ⟨-, -, ends⟩
      exact absurd rfl (ends _ rfl).2.2.2
  · next point small big =>
    have ends : EndsNumber cs := by
      cases cs with
      | nil => simp [EndsNumber]
      | cons c r =>
        rintro _ ⟨rfl⟩
        refine ⟨stop, ?_, ?_, ?_⟩
        · rintro rfl
          exact point r rfl
        · rintro rfl
          exact small r rfl
        · rintro rfl
          exact big r rfl
    simp [integer_eq_unsigned_iff, ends]

theorem toNat_ofNat_of_lt {k : Nat} (fits : k < 2 ^ 64) (n : UInt64) :
    UInt64.ofNat k = n ↔ k = n.toNat := by
  rw [← UInt64.toNat_inj, UInt64.toNat_ofNat_of_lt' fits]

theorem BeginsUnsigned.isDigit_head {cs rest : List Char} {n : UInt64}
    (begins : BeginsUnsigned cs n rest) : ∃ c cs', cs = c :: cs' ∧ c.isDigit = true := by
  obtain ⟨digits, rfl, canonical, -⟩ := begins
  cases canonical with
  | zero => exact ⟨'0', rest, rfl, rfl⟩
  | positive digit _ _ => exact ⟨_, _, rfl, digit⟩

/-- A zero that comes first is the whole integer. -/
theorem beginsUnsigned_zero_iff {cs rest : List Char} {n : UInt64} :
    BeginsUnsigned ('0' :: cs) n rest ↔ 0 = n ∧ cs = rest ∧ EndsNumber cs := by
  constructor
  · rintro ⟨digits, place, canonical, value, ends⟩
    cases canonical with
    | zero =>
      obtain rfl : cs = rest := (List.cons.inj place).2
      exact ⟨(toNat_ofNat_of_lt (by decide) n).2 value, rfl, ends⟩
    | positive _ other _ => exact absurd (List.cons.inj place).1.symm other
  · rintro ⟨rfl, rfl, ends⟩
    exact ⟨['0'], rfl, .zero, rfl, ends⟩

/-- Where another digit comes first, the integer is all digits up to the rest. -/
theorem beginsUnsigned_cons_iff {c : Char} {cs rest : List Char} {n : UInt64}
    (first : c.isDigit = true) (other : c ≠ '0') :
    BeginsUnsigned (c :: cs) n rest ↔
      (∃ digits, c :: cs = digits ++ rest ∧ digits.all Char.isDigit = true ∧
        Nat.ofDigitChars 10 digits 0 = n.toNat) ∧ EndsNumber rest := by
  constructor
  · rintro ⟨digits, place, canonical, value, ends⟩
    refine ⟨⟨digits, place, ?_, value⟩, ends⟩
    cases canonical with
    | zero => rfl
    | positive digit _ all => rw [List.all_cons, digit, all]; rfl
  · rintro ⟨⟨digits, place, all, value⟩, ends⟩
    refine ⟨digits, place, ?_, value, ends⟩
    cases digits with
    | nil =>
      obtain rfl : c :: cs = rest := place
      rw [(ends c rfl).1] at first
      cases first
    | cons d digits =>
      obtain rfl : c = d := (List.cons.inj place).1
      rw [List.all_cons, Bool.and_eq_true] at all
      exact .positive first other all.2

/-- What is gathered up to the end of a number is digits whose value fits a
word. -/
theorem gather_unsigned_iff {cs rest : List Char} {n : UInt64} (ends : EndsNumber rest) :
    (UInt64.ofNat (gather (2 ^ 64) 0 0 cs).1 = n ∧ (gather (2 ^ 64) 0 0 cs).2.2 = rest) ↔
      ∃ digits, cs = digits ++ rest ∧ digits.all Char.isDigit = true ∧
        Nat.ofDigitChars 10 digits 0 = n.toNat := by
  have stop := startsWithDigit_of_ends ends
  constructor
  · rintro ⟨number, left⟩
    have ended : startsWithDigit (gather (2 ^ 64) 0 0 cs).2.2 = false := by rw [left, stop]
    obtain ⟨digits, place, all, value, room⟩ := gather_eq (by decide) ended
    rw [left] at place
    rw [value] at number
    exact ⟨digits, place, all, (toNat_ofNat_of_lt room n).1 number⟩
  · rintro ⟨digits, rfl, all, value⟩
    have room : Nat.ofDigitChars 10 digits 0 < 2 ^ 64 := by
      rw [value]
      exact n.toNat_lt
    rw [gather_of_lt 0 all stop room]
    exact ⟨(toNat_ofNat_of_lt room n).2 value, rfl⟩

/-- Digits that are left when a word is full make a double of a number. -/
theorem readNumber_cons {negative : Bool} {c : Char} {cs rest : List Char} {n : UInt64}
    (first : c.isDigit = true) (other : c ≠ '0') :
    readNumber negative (c :: cs) = .ok (.number (.unsigned n), rest) ↔
      startsWithDigit (gather (2 ^ 64) 0 0 (c :: cs)).2.2 = false ∧
        readNumber.readParts negative (gather (2 ^ 64) 0 0 (c :: cs)).1
          (gather (2 ^ 64) 0 0 (c :: cs)).2.2 = .ok (.number (.unsigned n), rest) := by
  rw [readNumber.eq_3 negative c cs other, if_pos first]
  dsimp only
  generalize gather (2 ^ 64) 0 0 (c :: cs) = gathered
  cases more : startsWithDigit gathered.2.2 with
  | true =>
    simp only [if_true, Bool.true_eq_false, false_and, iff_false]
    split
    · exact (readsDouble_readFraction _ _ _ _).not_unsigned
    · exact (readsDouble_readTail _ _ _ _).not_unsigned
  | false => simp

/-- A number is an unsigned integer just if it is spelled as one. -/
theorem readNumber_unsigned_iff {negative : Bool} {cs rest : List Char} {n : UInt64} :
    readNumber negative cs = .ok (.number (.unsigned n), rest) ↔
      negative = false ∧ BeginsUnsigned cs n rest := by
  cases cs with
  | nil =>
    constructor
    · intro read
      cases read
    · rintro ⟨-, begins⟩
      obtain ⟨c, cs, place, -⟩ := begins.isDigit_head
      cases place
  | cons c cs =>
    by_cases zero : c = '0'
    · subst zero
      rw [beginsUnsigned_zero_iff, readNumber]
      cases more : startsWithDigit cs with
      | true =>
        constructor
        · intro read
          cases read
        · rintro ⟨-, -, -, ends⟩
          rw [startsWithDigit_of_ends ends] at more
          cases more
      | false =>
        rw [if_neg Bool.false_ne_true, readParts_eq_unsigned_iff more, and_assoc]
        rfl
    · cases first : c.isDigit with
      | false =>
        rw [readNumber.eq_3 negative c cs zero, first]
        constructor
        · intro read
          cases read
        · rintro ⟨-, begins⟩
          obtain ⟨d, cs', ⟨⟩, digit⟩ := begins.isDigit_head
          rw [first] at digit
          cases digit
      | true =>
        rw [readNumber_cons first zero, beginsUnsigned_cons_iff first zero]
        constructor
        · rintro ⟨stop, read⟩
          obtain ⟨⟨rfl, number⟩, left, ends⟩ := (readParts_eq_unsigned_iff stop).1 read
          rw [left] at ends
          exact ⟨rfl, (gather_unsigned_iff ends).1 ⟨number, left⟩, ends⟩
        · rintro ⟨rfl, digits, ends⟩
          obtain ⟨number, left⟩ := (gather_unsigned_iff ends).2 digits
          have stop := startsWithDigit_of_ends ends
          rw [left]
          exact ⟨stop, (readParts_eq_unsigned_iff stop).2 ⟨⟨rfl, number⟩, rfl, ends⟩⟩

/-! ### Values -/

theorem readWord_value {value v : Json} {word cs rest : List Char}
    (read : readWord value word cs = .ok (v, rest)) : v = value := by
  induction word generalizing cs with
  | nil =>
    cases read
    rfl
  | cons w word ih =>
    cases cs with
    | nil => cases read
    | cons c cs =>
      unfold readWord at read
      split at read
      · exact ih read
      · cases read

/-- A value that begins with a digit is a number. -/
theorem readValue_of_isDigit {room : Nat} {cs rest : List Char} {c : Char}
    (place : skipSpace cs = c :: rest) (digit : c.isDigit = true) :
    readValue room cs = readNumber false (c :: rest) := by
  unfold readValue
  rw [place]
  split
  case h_1 none => cases none
  case h_9 found =>
    cases found
    exact if_pos digit
  -- each of the other cases begins with a character that is no digit
  all_goals
    next found =>
      cases found
      cases digit

/-- A value is read as an unsigned integer just if it is spelled as one: with
digits only, no sign, no point and no exponent. -/
theorem readValue_unsigned_iff {room : Nat} {cs rest : List Char} {n : UInt64} :
    readValue room cs = .ok (.number (.unsigned n), rest) ↔
      BeginsUnsigned (skipSpace cs) n rest := by
  constructor
  · intro read
    unfold readValue at read
    split at read
    · cases read
    · cases readWord_value read
    · cases readWord_value read
    · cases readWord_value read
    · cases (readNumber_unsigned_iff.1 read).1
    · obtain ⟨⟨s, left⟩, -, made⟩ := bind_eq_ok.1 read
      cases made
    · split at read
      · cases read
      · obtain ⟨⟨items, left⟩, -, made⟩ := bind_eq_ok.1 read
        cases made
    · split at read
      · cases read
      · obtain ⟨⟨members, left⟩, -, made⟩ := bind_eq_ok.1 read
        cases made
    · next found =>
      split at read
      · rw [found]
        exact (readNumber_unsigned_iff.1 read).2
      · cases read
  · intro begins
    obtain ⟨c, cs', place, digit⟩ := begins.isDigit_head
    rw [readValue_of_isDigit place digit, ← place]
    exact readNumber_unsigned_iff.2 ⟨rfl, begins⟩

end Json

end NodeWatch
