/-
NodeWatch.Proofs.Variables — which variable has a say in what.

Variables can be wrong in several ways at once.  What is wrong with them is
listed here in the order in which it counts (`causes`), and the first that is
the case is reported (`First`).

* Reading fails just if something on that list is the case, and reports the
  first of it (`load_eq_refused_iff`).
* What is read otherwise is what the variables say: the trimmed text or the
  number that is spelled in them, else a default, with one warning for each
  that is set to something unreadable (`Config.Follows`).
* Each field follows a single variable (`Config.Apart`).

Main statement: all of this for any variables, as long as the interval, where it
is a number, fits its word in seconds (`load_follows`).

The name of a store counts whatever the case of its letters.  Only ASCII letters
are put into lower case to find out, and no more is needed: of what is beyond
ASCII only the Kelvin sign has nothing but ASCII for its lower case, a k, which
no store has in its name (`lowerCase_name_iff`).
-/
import NodeWatch.Proofs.Configuration

namespace NodeWatch

/-! ## 1. Lower case -/

namespace Text

/-- What a character becomes in lower case.  Of one beyond ASCII only so much is
said: there is something beyond ASCII in what it becomes, or it is the Kelvin
sign. -/
inductive Lowers : Char → List Char → Prop where
  | ascii {c : Char} : c.toNat < 128 → Lowers c [c.toLower]
  | kelvin : Lowers '\u212a' ['k']
  | beyond {c d : Char} {piece : List Char} : 128 ≤ c.toNat → d ∈ piece → 128 ≤ d.toNat →
    Lowers c piece

/-- Whether a text can be the lower case of another. -/
inductive LowerCase : List Char → List Char → Prop where
  | nil : LowerCase [] []
  | cons {c : Char} {cs piece rest : List Char} : Lowers c piece → LowerCase cs rest →
    LowerCase (c :: cs) (piece ++ rest)

theorem toLower_of_le {c : Char} (beyond : 128 ≤ c.toNat) : c.toLower = c := by
  unfold Char.toLower
  split
  · next upper =>
    have ascii : c.toNat ≤ 90 := upper.2
    omega
  · rfl

/-- For a text in ASCII without a k, it is enough to put ASCII letters into lower
case. -/
theorem lowerCase_iff {cs name : List Char} (plain : ∀ c ∈ name, c.toNat < 128 ∧ c ≠ 'k') :
    LowerCase cs name ↔ cs.map Char.toLower = name := by
  constructor
  · intro lower
    induction lower with
    | nil => rfl
    | @cons c cs piece rest lowers lower ih =>
      have here : ∀ d ∈ piece, d.toNat < 128 ∧ d ≠ 'k' :=
        fun d mem => plain d (List.mem_append_left rest mem)
      have tail := ih fun d mem => plain d (List.mem_append_right piece mem)
      cases lowers with
      | ascii => rw [List.map_cons, tail]; rfl
      | kelvin => exact absurd rfl (here 'k' List.mem_cons_self).2
      | beyond _ mem high => exact absurd (here _ mem).1 (Nat.not_lt.2 high)
  · intro same
    induction cs generalizing name with
    | nil =>
      rw [← same]
      exact .nil
    | cons c cs ih =>
      rw [List.map_cons] at same
      subst same
      obtain ⟨first, others⟩ := List.forall_mem_cons.1 plain
      -- A character that is not ASCII would have been left as it is.
      have ascii : c.toNat < 128 := by
        by_contra beyond
        rw [toLower_of_le (Nat.le_of_not_lt beyond)] at first
        exact beyond first.1
      exact .cons (.ascii ascii) (ih others rfl)

end Text

namespace Config

variable {vars : Variables}

/-! ## 2. What is wrong with variables -/

/-- Something that may be wrong, and the error under which it is reported. -/
structure Cause where
  holds : Prop
  error : ConfigError

/-- The error of the first cause that holds. -/
inductive First : List Cause → ConfigError → Prop where
  | here {cause : Cause} {rest : List Cause} : cause.holds → First (cause :: rest) cause.error
  | later {cause : Cause} {rest : List Cause} {e : ConfigError} : ¬ cause.holds → First rest e →
    First (cause :: rest) e

/-- Whether a variable is set to a text of some kind. -/
def SetTo (vars : Variables) (name : String) (kind : List Char → Prop) : Prop :=
  ∃ raw, vars name = some raw ∧ kind raw.toList

/-- Whether a text is not the address of a web socket. -/
def Stray (cs : List Char) : Prop :=
  ¬ "ws://".toList <+: Text.trim cs ∧ ¬ "wss://".toList <+: Text.trim cs

/-- What may be wrong with the feed's address and the chain. -/
def feedCauses (vars : Variables) : List Cause :=
  [⟨SetTo vars "WEBSOCKET_URI" Text.Blank, .missingVariable "WEBSOCKET_URI"⟩,
    ⟨SetTo vars "WEBSOCKET_URI" Stray,
      .invalidValue "WEBSOCKET_URI must start with ws:// or wss://"⟩,
    ⟨SetTo vars "CHAIN_NAME" Text.Blank, .missingVariable "CHAIN_NAME"⟩]

/-- The interval and the two timeouts may be zero. -/
def zeroCauses (vars : Variables) : List Cause :=
  ["INTERVAL", "PING_INTERVAL_MS", "NO_NEW_NODE_TIMEOUT_MS"].map fun name =>
    ⟨SetTo vars name (Text.SpellsUnsigned · 0), .invalidValue (name ++ " must be greater than 0")⟩

/-- All that may be wrong, in the order in which it counts. -/
def causes (vars : Variables) : List Cause :=
  feedCauses vars ++ zeroCauses vars

@[simp] theorem first_nil (e : ConfigError) : ¬ First [] e := nofun

@[simp] theorem first_cons {cause : Cause} {rest : List Cause} {e : ConfigError} :
    First (cause :: rest) e ↔
      (cause.holds ∧ cause.error = e) ∨ (¬ cause.holds ∧ First rest e) := by
  constructor
  · intro first
    cases first with
    | here holds => exact .inl ⟨holds, rfl⟩
    | later not first => exact .inr ⟨not, first⟩
  · intro first
    rcases first with ⟨holds, rfl⟩ | ⟨not, first⟩
    · exact .here holds
    · exact .later not first

theorem first_append {l m : List Cause} {e : ConfigError} :
    First (l ++ m) e ↔ First l e ∨ ((∀ cause ∈ l, ¬ cause.holds) ∧ First m e) := by
  induction l with
  | nil => simp
  | cons cause l ih =>
    rw [List.cons_append, first_cons, first_cons, ih, List.forall_mem_cons]
    by_cases holds : cause.holds <;> simp [holds]

/-- There is a first cause that holds just if one holds. -/
theorem exists_first_iff {l : List Cause} : (∃ e, First l e) ↔ ∃ cause ∈ l, cause.holds := by
  induction l with
  | nil => simp
  | cons cause l ih =>
    by_cases holds : cause.holds
    · simp [holds]
    · simp [holds, ih]

/-- What reports the first cause that holds succeeds just if none holds. -/
theorem exists_ok_iff {α : Type} {x : Except ConfigError α} {l : List Cause}
    (reports : ∀ e, x = .error e ↔ First l e) :
    (∃ a, x = .ok a) ↔ ∀ cause ∈ l, ¬ cause.holds := by
  constructor
  · rintro ⟨a, rfl⟩ cause mem holds
    obtain ⟨e, first⟩ := exists_first_iff.2 ⟨cause, mem, holds⟩
    cases (reports e).2 first
  · intro none
    cases x with
    | ok a => exact ⟨a, rfl⟩
    | error e =>
      obtain ⟨cause, mem, holds⟩ := exists_first_iff.1 ⟨e, (reports e).1 rfl⟩
      exact absurd holds (none cause mem)

/-! ### The feed -/

/-- A text that must not be blank is missing, or it is given. -/
theorem required_missing_or (vars : Variables) (name default : String) :
    (SetTo vars name Text.Blank ∧ required vars name default = .error (.missingVariable name)) ∨
      ∃ s, ¬ SetTo vars name Text.Blank ∧ required vars name default = .ok s := by
  unfold required SetTo
  cases vars name with
  | none => simp
  | some raw =>
    by_cases blank : Text.Blank raw.toList
    · simp [Text.trim_eq_nil_iff.2 blank, blank]
    · simp [Text.trim_eq_nil_iff, blank]

/-- A text without the blanks at both its ends. -/
def trimmed (raw : String) : String :=
  String.ofList (Text.trim raw.toList)

/-- A text that is given is the trimmed one, or its default. -/
theorem eq_of_required {name default s : String} (given : required vars name default = .ok s) :
    s = ((vars name).map trimmed).getD default := by
  rcases required_eq_ok_iff.1 given with ⟨unset, rfl⟩ | ⟨raw, set, -, rfl⟩
  · rw [unset]
    rfl
  · rw [set]
    rfl

theorem isSocketUri_iff_not_stray {uri : String}
    (given : required vars "WEBSOCKET_URI" "wss://telemetry.joystream.org/feed/" = .ok uri) :
    isSocketUri uri = true ↔ ¬ SetTo vars "WEBSOCKET_URI" Stray := by
  rcases required_eq_ok_iff.1 given with ⟨unset, rfl⟩ | ⟨raw, set, -, rfl⟩
  · have default : isSocketUri "wss://telemetry.joystream.org/feed/" = true := by decide
    simp [SetTo, unset, default]
  · rw [isSocketUri_iff]
    simp [SetTo, set, Stray, or_iff_not_imp_left]

/-- There is no feed just if something is wrong with it, and the first of it is
reported. -/
theorem feedOf_eq_error_iff {e : ConfigError} :
    feedOf vars = .error e ↔ First (feedCauses vars) e := by
  unfold feedOf feedCauses
  rcases required_missing_or vars "WEBSOCKET_URI" "wss://telemetry.joystream.org/feed/" with
    ⟨blank, given⟩ | ⟨uri, shown, given⟩
  · simp [given, blank, bind, Except.bind]
  · have socket := isSocketUri_iff_not_stray given
    by_cases stray : SetTo vars "WEBSOCKET_URI" Stray
    · simp [given, shown, socket, stray, bind, Except.bind]
    · rcases required_missing_or vars "CHAIN_NAME" "Joystream" with
        ⟨blank, named⟩ | ⟨chain, shown', named⟩
      · simp [given, shown, socket, stray, named, blank, bind, Except.bind]
      · simp [given, shown, socket, stray, named, shown', bind, Except.bind, pure, Except.pure]

/-! ### Zeros -/

/-- A number is zero just if it is set to zero, where its default is another
one. -/
theorem number_eq_zero_iff {name : String} {limit : Nat} {default : UInt64}
    (word : limit ≤ 2 ^ 64) (inhabited : 0 < limit) (other : default ≠ 0) :
    (number vars name limit default).1 = 0 ↔ SetTo vars name (Text.SpellsUnsigned · 0) := by
  rw [← reads_iff word]
  constructor
  · intro reads
    cases reads with
    | unset => exact absurd rfl other
    | spelled set spelled => exact ⟨_, set, spelled⟩
    | unreadable => exact absurd rfl other
  · rintro ⟨raw, set, spelled⟩
    exact .spelled set spelled inhabited

theorem firstZero_eq_error_iff (l : List (String × UInt64)) {e : ConfigError} :
    firstZero l = .error e ↔
      First (l.map fun pair =>
        ⟨pair.2 = 0, .invalidValue (pair.1 ++ " must be greater than 0")⟩) e := by
  induction l with
  | nil => simp [firstZero]
  | cons pair rest ih =>
    obtain ⟨name, n⟩ := pair
    by_cases zero : n = 0
    · simp [firstZero, zero]
    · simp [firstZero, zero, ih]

theorem firstZero_positives_iff {e : ConfigError} :
    firstZero (positives vars) = .error e ↔ First (zeroCauses vars) e := by
  rw [firstZero_eq_error_iff]
  simp [positives, zeroCauses, number_eq_zero_iff]

/-! ## 3. Numbers -/

/-- A numeric variable and the field that has its number. -/
structure Setting where
  name : String
  /-- The least number that is too large for it. -/
  limit : Nat
  default : UInt64
  /-- How many units of the field are one of the variable. -/
  scale : Nat
  field : Config → Nat

/-- The numeric variables, in the order in which they are read.  The interval is
given in minutes and kept in seconds. -/
def settings : List Setting :=
  [⟨"INTERVAL", 2 ^ 64, 5, 60, fun c => c.snapshotInterval.toNat⟩,
    ⟨"PING_INTERVAL_MS", 2 ^ 64, 30000, 1, fun c => c.pingInterval.toNat⟩,
    ⟨"NO_NEW_NODE_TIMEOUT_MS", 2 ^ 64, 30000, 1, fun c => c.firstNodeTimeout.toNat⟩,
    ⟨"LOCATION_RETRY_DELAY_MS", 2 ^ 64, 1000, 1, fun c => c.retry.delay⟩,
    ⟨"LOCATION_RETRY_ATTEMPTS", 2 ^ 32, 10, 1, fun c => c.retry.maxAttempts⟩]

/-- What is read of a numeric variable. -/
def Setting.read (v : Setting) (vars : Variables) : UInt64 × List Warning :=
  number vars v.name v.limit v.default

/-- What some numeric variables are warned about. -/
def told (vars : Variables) (l : List Setting) : List Warning :=
  l.flatMap fun v => (v.read vars).2

theorem limit_le : ∀ v ∈ settings, v.limit ≤ 2 ^ 64 := by
  simp [settings]

/-- The variable that a warning is about. -/
def Warning.about : Warning → String
  | .unreadable name _ _ => name
  | .unknownBackend _ => "TRACKER_BACKEND"

/-- A number is warned about just if its variable is set and no number that fits
is spelled in it. -/
theorem mem_number_iff {name : String} {limit : Nat} {default : UInt64} {w : Warning} :
    w ∈ (number vars name limit default).2 ↔
      ∃ raw, vars name = some raw ∧ (∀ k, Text.SpellsUnsigned raw.toList k → limit ≤ k) ∧
        w = .unreadable name raw default := by
  cases set : vars name with
  | none => simp [number, set]
  | some raw =>
    simp only [← Text.unsigned?_trim_eq_none_iff]
    cases read : Text.unsigned? limit (Text.trim raw.toList) with
    | none => simp [number, set, read]
    | some k => simp [number, set, read]

/-- There is at most one warning about a number. -/
theorem about_number_sublist (name : String) (limit : Nat) (default : UInt64) :
    List.Sublist ((number vars name limit default).2.map Warning.about) [name] := by
  unfold number
  split
  · exact List.nil_sublist _
  · split
    · exact List.nil_sublist _
    · exact List.Sublist.refl _

/-- There is at most one warning about each number, and they come in order. -/
theorem about_settings_sublist (l : List Setting) :
    List.Sublist ((told vars l).map Warning.about) (l.map Setting.name) := by
  induction l with
  | nil => exact List.nil_sublist _
  | cons v rest ih =>
    rw [told, List.flatMap_cons, List.map_append, List.map_cons]
    exact (about_number_sublist v.name v.limit v.default).append ih

/-! ## 4. The store -/

/-- Which store is chosen by a variable that is set to something, or not set. -/
inductive Chosen : Option String → Backend → Prop where
  | unset : Chosen none .sqlite
  | named {raw : String} {b : Backend} : Text.LowerCase raw.toList b.name.toList →
    Chosen (some raw) b
  | unknown {raw : String} : (∀ b : Backend, ¬ Text.LowerCase raw.toList b.name.toList) →
    Chosen (some raw) .sqlite

/-- The name of a store is spelled in ASCII letters of any case. -/
theorem lowerCase_name_iff {raw : String} {b : Backend} :
    Text.LowerCase raw.toList b.name.toList ↔
      String.ofList (raw.toList.map Char.toLower) = b.name := by
  have plain : ∀ c ∈ b.name.toList, c.toNat < 128 ∧ c ≠ 'k' := by
    cases b <;> simp [Backend.name]
  rw [Text.lowerCase_iff plain, ← String.toList_inj, String.toList_ofList]

theorem eq_of_lowerCase_name {raw : String} {b b' : Backend}
    (named : Text.LowerCase raw.toList b.name.toList)
    (named' : Text.LowerCase raw.toList b'.name.toList) : b = b' := by
  have same := (lowerCase_name_iff.1 named).symm.trans (lowerCase_name_iff.1 named')
  cases b <;> cases b' <;> first | rfl | exact absurd same (by decide)

theorem Chosen.unique {given : Option String} {b b' : Backend} (chosen : Chosen given b)
    (chosen' : Chosen given b') : b = b' := by
  cases chosen with
  | unset =>
    cases chosen'
    rfl
  | named named =>
    cases chosen' with
    | named named' => exact eq_of_lowerCase_name named named'
    | unknown unknown => exact absurd named (unknown b)
  | unknown unknown =>
    cases chosen' with
    | named named => exact absurd named (unknown b')
    | unknown => rfl

/-- What the store's variable is read as: the default where it is not set, the
store that it names, or the default with a warning. -/
theorem backendOf_cases (vars : Variables) :
    (vars "TRACKER_BACKEND" = none ∧ backendOf vars = (.sqlite, [])) ∨
      (∃ raw b, vars "TRACKER_BACKEND" = some raw ∧
        Text.LowerCase raw.toList (Backend.name b).toList ∧ backendOf vars = (b, [])) ∨
      ∃ raw, vars "TRACKER_BACKEND" = some raw ∧
        (∀ b : Backend, ¬ Text.LowerCase raw.toList b.name.toList) ∧
        backendOf vars = (.sqlite, [.unknownBackend raw]) := by
  cases set : vars "TRACKER_BACKEND" with
  | none =>
    refine .inl ⟨rfl, ?_⟩
    simp only [backendOf, set]
  | some raw =>
    simp only [lowerCase_name_iff, backendOf, set]
    split
    · next named => exact .inr (.inl ⟨raw, .sqlite, rfl, named, rfl⟩)
    · next other =>
      split
      · next named => exact .inr (.inl ⟨raw, .memory, rfl, named, rfl⟩)
      · next other' =>
        refine .inr (.inr ⟨raw, rfl, ?_, rfl⟩)
        intro b
        cases b with
        | sqlite => exact other
        | memory => exact other'

theorem chosen_backendOf (vars : Variables) :
    Chosen (vars "TRACKER_BACKEND") (backendOf vars).1 := by
  rcases backendOf_cases vars with ⟨unset, read⟩ | ⟨raw, b, set, named, read⟩ |
    ⟨raw, set, unknown, read⟩
  · rw [unset, read]
    exact .unset
  · rw [set, read]
    exact .named named
  · rw [set, read]
    exact .unknown unknown

/-- The store is warned about just if its variable is set and names none. -/
theorem mem_backendOf_iff {w : Warning} :
    w ∈ (backendOf vars).2 ↔
      ∃ raw, vars "TRACKER_BACKEND" = some raw ∧
        (∀ b : Backend, ¬ Text.LowerCase raw.toList b.name.toList) ∧ w = .unknownBackend raw := by
  rcases backendOf_cases vars with ⟨unset, read⟩ | ⟨raw, b, set, named, read⟩ |
    ⟨raw, set, unknown, read⟩
  · simp [unset, read]
  · simpa [set, read] using fun unknown => absurd named (unknown b)
  · simpa [set, read] using fun _ => unknown

theorem about_backendOf_sublist (vars : Variables) :
    List.Sublist ((backendOf vars).2.map Warning.about) ["TRACKER_BACKEND"] := by
  rcases backendOf_cases vars with ⟨-, read⟩ | ⟨_, _, -, -, read⟩ | ⟨_, -, -, read⟩
  · rw [read]
    exact List.nil_sublist _
  · rw [read]
    exact List.nil_sublist _
  · rw [read]
    exact List.Sublist.refl _

/-! ## 5. The end of a reading -/

/-- How the reading of variables comes to its end. -/
inductive Exit (vars : Variables) : List Warning × Except Fault Config → Prop where
  /-- There is no feed. -/
  | feed {e : ConfigError} (missing : feedOf vars = .error e) :
    Exit vars ([], .error (.refused e))
  /-- A number is zero. -/
  | zero {given : String × String} {e : ConfigError} (feed : feedOf vars = .ok given)
    (zero : firstZero (positives vars) = .error e) :
    Exit vars (told vars (settings.take 3), .error (.refused e))
  /-- The seconds of the interval do not fit their word. -/
  | overflow {given : String × String} {operation : Overflow} (feed : feedOf vars = .ok given)
    (positive : firstZero (positives vars) = .ok ())
    (product : Word.multiply (number vars "INTERVAL" (2 ^ 64) 5).1 60 = .error operation) :
    Exit vars (told vars settings ++ (backendOf vars).2, .error (.overflow operation))
  /-- There is a configuration. -/
  | built {given : String × String} {seconds : UInt64} (feed : feedOf vars = .ok given)
    (positive : firstZero (positives vars) = .ok ())
    (product : Word.multiply (number vars "INTERVAL" (2 ^ 64) 5).1 60 = .ok seconds) :
    Exit vars (told vars settings ++ (backendOf vars).2, .ok {
      feedUri := given.1
      chain := given.2
      snapshotInterval := seconds
      pingInterval := (number vars "PING_INTERVAL_MS" (2 ^ 64) 30000).1
      firstNodeTimeout := (number vars "NO_NEW_NODE_TIMEOUT_MS" (2 ^ 64) 30000).1
      retry := ⟨(number vars "LOCATION_RETRY_DELAY_MS" (2 ^ 64) 1000).1.toNat,
        (number vars "LOCATION_RETRY_ATTEMPTS" (2 ^ 32) 10).1.toNat⟩
      databasePath := (vars "TRACKER_DB_PATH").getD "telemetry.db"
      backend := (backendOf vars).1 })

theorem exit_load (vars : Variables) : Exit vars (load vars) := by
  unfold load
  cases feed : feedOf vars with
  | error e => exact .feed feed
  | ok given =>
    cases zeros : firstZero (positives vars) with
    | error e =>
      have zero := Exit.zero feed zeros
      unfold positives at zeros
      simpa [zeros, told, settings, Setting.read] using zero
    | ok _ =>
      cases product : Word.multiply (number vars "INTERVAL" (2 ^ 64) 5).1 60 with
      | error operation =>
        have overflow := Exit.overflow feed zeros product
        unfold positives at zeros
        simpa [zeros, product, told, settings, Setting.read] using overflow
      | ok seconds =>
        have built := Exit.built feed zeros product
        unfold positives at zeros
        simpa [zeros, product, told, settings, Setting.read] using built

/-- Variables are refused just if something is wrong with them, and the first of
it is reported. -/
theorem load_eq_refused_iff {e : ConfigError} :
    (load vars).2 = .error (.refused e) ↔ First (causes vars) e := by
  have reports : ∀ e, feedOf vars = .error e ↔ First (feedCauses vars) e :=
    fun _ => feedOf_eq_error_iff
  rw [causes, first_append, ← reports, ← exists_ok_iff reports, ← firstZero_positives_iff]
  have exit := exit_load vars
  generalize load vars = loaded at exit ⊢
  cases exit with
  | feed missing => simp [missing]
  | zero feed zero => simp [feed, zero]
  | overflow feed positive product => simp [feed, positive]
  | built feed positive product => simp [feed, positive]

/-! ## 6. What a configuration has of its variables -/

/-- Whether the interval, where it is a number, fits its word in seconds. -/
def ShortInterval (vars : Variables) : Prop :=
  ∀ raw n, vars "INTERVAL" = some raw → Text.SpellsUnsigned raw.toList n → n < 2 ^ 64 →
    60 * n < 2 ^ 64

/-- What is warned about: numeric variables that are set to something other than
a number that fits, and a store that is not known. -/
inductive Warned (vars : Variables) : Warning → Prop where
  | unreadable {v : Setting} {raw : String} : v ∈ settings → vars v.name = some raw →
    (∀ k, Text.SpellsUnsigned raw.toList k → v.limit ≤ k) →
    Warned vars (.unreadable v.name raw v.default)
  | unknownBackend {raw : String} : vars "TRACKER_BACKEND" = some raw →
    (∀ b : Backend, ¬ Text.LowerCase raw.toList b.name.toList) →
    Warned vars (.unknownBackend raw)

end Config

open Config in
/-- Whether a configuration, and the warnings given on the way to it, are what
variables say. -/
structure Config.Follows (c : Config) (vars : Variables) (warnings : List Warning) : Prop where
  feedUri : c.feedUri =
    ((vars "WEBSOCKET_URI").map trimmed).getD "wss://telemetry.joystream.org/feed/"
  chain : c.chain = ((vars "CHAIN_NAME").map trimmed).getD "Joystream"
  numbers : ∀ v ∈ settings, ∃ n, Reads vars v.name v.limit v.default n ∧
    v.field c = v.scale * n.toNat
  databasePath : c.databasePath = (vars "TRACKER_DB_PATH").getD "telemetry.db"
  backend : Chosen (vars "TRACKER_BACKEND") c.backend
  warned : ∀ w, w ∈ warnings ↔ Warned vars w
  /-- There is one warning at most about each variable, and they come in order. -/
  once : List.Sublist (warnings.map Warning.about)
    (settings.map Setting.name ++ ["TRACKER_BACKEND"])

open Config in
/-- Whether two configurations are the same wherever their variables are: each
field has one variable that it can differ by. -/
structure Config.Apart (vars other : Variables) (c c' : Config) : Prop where
  feedUri : vars "WEBSOCKET_URI" = other "WEBSOCKET_URI" → c.feedUri = c'.feedUri
  chain : vars "CHAIN_NAME" = other "CHAIN_NAME" → c.chain = c'.chain
  numbers : ∀ v ∈ settings, vars v.name = other v.name → v.field c = v.field c'
  databasePath : vars "TRACKER_DB_PATH" = other "TRACKER_DB_PATH" →
    c.databasePath = c'.databasePath
  backend : vars "TRACKER_BACKEND" = other "TRACKER_BACKEND" → c.backend = c'.backend

namespace Config

variable {other : Variables}

theorem eq_of_feedOf {uri chain : String} (feed : feedOf vars = .ok (uri, chain)) :
    uri = ((vars "WEBSOCKET_URI").map trimmed).getD "wss://telemetry.joystream.org/feed/" ∧
      chain = ((vars "CHAIN_NAME").map trimmed).getD "Joystream" := by
  unfold feedOf at feed
  obtain ⟨uri', given, feed⟩ := bind_eq_ok.1 feed
  split at feed
  · obtain ⟨chain', named, made⟩ := bind_eq_ok.1 feed
    cases made
    exact ⟨eq_of_required given, eq_of_required named⟩
  · cases feed

theorem mem_warnings_iff {w : Warning} :
    w ∈ told vars settings ++ (backendOf vars).2 ↔ Warned vars w := by
  simp only [List.mem_append, told, List.mem_flatMap, Setting.read, mem_number_iff,
    mem_backendOf_iff]
  constructor
  · rintro (⟨v, mem, raw, set, beyond, rfl⟩ | ⟨raw, set, unknown, rfl⟩)
    · exact .unreadable mem set beyond
    · exact .unknownBackend set unknown
  · intro warned
    cases warned with
    | @unreadable v raw mem set beyond => exact .inl ⟨v, mem, raw, set, beyond, rfl⟩
    | @unknownBackend raw set unknown => exact .inr ⟨raw, set, unknown, rfl⟩

/-- A configuration follows the variables that it was read from. -/
theorem follows_of_load {c : Config} (loaded : (load vars).2 = .ok c) :
    c.Follows vars (load vars).1 := by
  have exit := exit_load vars
  generalize load vars = result at exit loaded ⊢
  cases exit with
  | feed missing => cases loaded
  | zero feed zero => cases loaded
  | overflow feed positive product => cases loaded
  | built feed positive product =>
    cases loaded
    obtain ⟨uri, chain⟩ := eq_of_feedOf feed
    have seconds := Word.toNat_of_multiply product
    refine ⟨uri, chain, ?_, rfl, chosen_backendOf vars, fun w => mem_warnings_iff, ?_⟩
    · intro v mem
      refine ⟨(v.read vars).1, reads_number (limit_le v mem), ?_⟩
      revert v
      simp [settings, Setting.read, seconds, Nat.mul_comm]
    · rw [List.map_append]
      exact (about_settings_sublist settings).append (about_backendOf_sublist vars)

/-- The minutes of a short interval fit their word in seconds. -/
theorem ShortInterval.fits (short : ShortInterval vars) :
    60 * (number vars "INTERVAL" (2 ^ 64) 5).1.toNat < 2 ^ 64 := by
  have reads : Reads vars "INTERVAL" (2 ^ 64) 5 _ := reads_number (Nat.le_refl _)
  generalize (number vars "INTERVAL" (2 ^ 64) 5).1 = minutes at reads ⊢
  cases reads with
  | unset => decide
  | spelled set spelled small => exact short _ _ set spelled small
  | unreadable => decide

/-- A short interval leads to an error that says what is wrong, or to a
configuration. -/
theorem refused_or_loaded (short : ShortInterval vars) :
    (∃ e, (load vars).2 = .error (.refused e)) ∨ ∃ c, (load vars).2 = .ok c := by
  have exit := exit_load vars
  generalize load vars = result at exit ⊢
  cases exit with
  | feed missing => exact .inl ⟨_, rfl⟩
  | zero feed zero => exact .inl ⟨_, rfl⟩
  | overflow feed positive product =>
    have large := (Word.multiply_eq_error product).2
    have sixty : (60 : UInt64).toNat = 60 := rfl
    have fits := short.fits
    rw [sixty] at large
    omega
  | built feed positive product => exact .inr ⟨_, rfl⟩

/-- What follows from two lots of variables is the same wherever they are. -/
theorem Follows.apart {c c' : Config} {warnings warnings' : List Warning}
    (follows : c.Follows vars warnings) (follows' : c'.Follows other warnings') :
    Apart vars other c c' where
  feedUri same := by rw [follows.feedUri, follows'.feedUri, same]
  chain same := by rw [follows.chain, follows'.chain, same]
  numbers := by
    intro v mem same
    obtain ⟨n, reads, field⟩ := follows.numbers v mem
    obtain ⟨n', reads', field'⟩ := follows'.numbers v mem
    have one : n = n' := by
      rw [← reads.eq, ← reads'.eq]
      simp only [number, same]
    rw [field, field', one]
  databasePath same := by rw [follows.databasePath, follows'.databasePath, same]
  backend same := by
    have chosen := follows.backend
    rw [same] at chosen
    exact chosen.unique follows'.backend

/-- Variables whose interval fits its word are refused just if something is wrong
with them, and the first of it is reported.  Otherwise there is a configuration
that follows them, each of its fields by a single variable. -/
theorem load_follows {vars : Variables} (short : ShortInterval vars) :
    ((∃ fault, (load vars).2 = .error fault) ↔ ∃ cause ∈ causes vars, cause.holds) ∧
      (∀ fault, (load vars).2 = .error fault →
        ∃ e, fault = .refused e ∧ First (causes vars) e) ∧
      ((¬ ∃ cause ∈ causes vars, cause.holds) →
        ∃ c, (load vars).2 = .ok c ∧ c.Follows vars (load vars).1 ∧
          ∀ other c', (load other).2 = .ok c' → Apart vars other c c') := by
  have refused :
      (∃ e, (load vars).2 = .error (.refused e)) ↔ ∃ cause ∈ causes vars, cause.holds := by
    simp only [load_eq_refused_iff, exists_first_iff]
  -- Of the three ways to end, a short interval excludes the overflow.
  rcases refused_or_loaded short with ⟨e, failed⟩ | ⟨c, loaded⟩
  · have wrong := refused.1 ⟨e, failed⟩
    refine ⟨⟨fun _ => wrong, fun _ => ⟨_, failed⟩⟩, ?_, fun right => absurd wrong right⟩
    intro fault failed'
    rw [failed] at failed'
    cases failed'
    exact ⟨e, rfl, load_eq_refused_iff.1 failed⟩
  · have no_fault : ∀ fault, (load vars).2 ≠ .error fault := by
      intro fault failed
      rw [loaded] at failed
      cases failed
    refine ⟨⟨?_, ?_⟩, fun fault failed => absurd failed (no_fault fault), fun _ => ?_⟩
    · rintro ⟨fault, failed⟩
      exact absurd failed (no_fault fault)
    · intro wrong
      obtain ⟨e, failed⟩ := refused.2 wrong
      exact absurd failed (no_fault _)
    · have follows := follows_of_load loaded
      exact ⟨c, loaded, follows, fun other c' loaded' => follows.apart (follows_of_load loaded')⟩

/-- Blanks, signs and letters of either case; the pings are one too many for their
word, and the attempts are not. -/
def exampleMixed : Variables
  | "WEBSOCKET_URI" => some "\tws://localhost:8000/feed\u00a0"
  | "INTERVAL" => some " +007\n"
  | "PING_INTERVAL_MS" => some "18446744073709551616"
  | "LOCATION_RETRY_DELAY_MS" => some "-1"
  | "LOCATION_RETRY_ATTEMPTS" => some "4294967295"
  | "TRACKER_BACKEND" => some "MeMory"
  | _ => none

theorem load_follows_exampleMixed :
    ShortInterval exampleMixed ∧
      (load exampleMixed).1 = [.unreadable "PING_INTERVAL_MS" "18446744073709551616" 30000,
        .unreadable "LOCATION_RETRY_DELAY_MS" "-1" 1000] ∧
      ∃ c, (load exampleMixed).2 = .ok c ∧ c.feedUri = "ws://localhost:8000/feed" ∧
        c.snapshotInterval = 420 ∧ c.retry = ⟨1000, 4294967295⟩ ∧ c.backend = .memory ∧
        c.Follows exampleMixed (load exampleMixed).1 ∧
        ∀ other c', (load other).2 = .ok c' → Apart exampleMixed other c c' := by
  have short : ShortInterval exampleMixed := by
    intro raw n set spelled small
    cases set
    have seven : Text.unsigned? (2 ^ 64) (Text.trim " +007\n".toList) = some 7 := rfl
    have read := Text.unsigned?_trim_eq_some_iff.2 ⟨spelled, small⟩
    rw [seven] at read
    cases read
    decide
  have loaded : (load exampleMixed).2 = .ok {
      feedUri := "ws://localhost:8000/feed", chain := "Joystream", snapshotInterval := 420
      pingInterval := 30000, firstNodeTimeout := 30000, retry := ⟨1000, 4294967295⟩
      databasePath := "telemetry.db", backend := .memory } := rfl
  have right : ¬ ∃ cause ∈ causes exampleMixed, cause.holds := by
    intro wrong
    obtain ⟨fault, failed⟩ := (load_follows short).1.2 wrong
    rw [loaded] at failed
    cases failed
  obtain ⟨c, loaded', follows, apart⟩ := (load_follows short).2.2 right
  obtain rfl := Except.ok.inj (loaded.symm.trans loaded')
  exact ⟨short, rfl, _, loaded, rfl, rfl, rfl, rfl, follows, apart⟩

end Config

end NodeWatch
