import BillingQuery.Proofs.Days
import BillingQuery.Proofs.Text
import BillingQuery.Service.Settings
import Mathlib.Data.List.Nodup
import Mathlib.Data.Nat.Digits.Defs
import Mathlib.Logic.Function.Basic

/-!
# Numbers in the environment

Seven settings are numbers, each of a fixed width. The text of a variable may be anything.

**Spelled numbers (`IntegerType.Spells`).** One or more decimal digits, perhaps after a sign, spell
the number that is their positional value.

**Main result (`Settings.fallsBack_ofEnvironment`).** A setting is the number that its variable
spells among white space, if its type has that number, and the default otherwise. No other variable
plays a part.

**Machine arithmetic (`IntegerType.accumulate?`).** A program whose numbers all have the width of
the setting takes one digit after the other, and gives up at the first step that would leave the
type. It comes to the same: no digit brings a number nearer to zero, so if a step leaves the type,
then the number that is spelled is not in the type either.
-/

namespace BillingQuery

/-! ## Digits -/

/-- The number that digits write: each counts as often as its place says. -/
def positionalValue (ds : List Char) : Nat := Nat.ofDigits 10 (ds.reverse.map Numeral.digitValue)

theorem positionalValue_concat (ds : List Char) (c : Char) :
    positionalValue (ds ++ [c]) = 10 * positionalValue ds + Numeral.digitValue c := by
  rw [positionalValue, List.reverse_concat, List.map_cons, Nat.ofDigits_cons, Nat.add_comm]
  rfl

/-- One or more decimal digits, and nothing else. -/
def AreDigits (ds : List Char) : Prop := ds ≠ [] ∧ ∀ c ∈ ds, c.isDigit = true

theorem AreDigits.head_ne {c d : Char} {ds : List Char} (h : AreDigits (c :: ds))
    (hd : d.isDigit = false) : c ≠ d := by
  rintro rfl
  exact Bool.false_ne_true (hd.symm.trans (h.2 c List.mem_cons_self))

namespace Numeral

theorem ofDigits_eq_positionalValue (ds : List Char) : ofDigits ds = positionalValue ds := by
  induction ds using List.reverseRecOn with
  | nil => rfl
  | append_singleton ds c ih => rw [ofDigits_append_singleton, ih, positionalValue_concat]

theorem digits?_eq_some_iff {ds : List Char} {n : Nat} :
    digits? ds = some n ↔ AreDigits ds ∧ positionalValue ds = n := by
  have hrefused : (ds.isEmpty || !ds.all Char.isDigit) = true ↔ ¬ AreDigits ds := by
    rw [AreDigits, not_and_or, ← List.all_eq_true]
    simp
  unfold digits?
  by_cases h : AreDigits ds
  · rw [if_neg (mt hrefused.1 (not_not_intro h)), ofDigits_eq_positionalValue, Option.some.injEq]
    exact (and_iff_right h).symm
  · rw [if_pos (hrefused.2 h)]
    exact iff_of_false nofun fun hds => h hds.1

end Numeral

/-- A number, or its negative. -/
def withSign : Bool → Nat → Int
  | false, n => n
  | true, n => -n

theorem withSign_push (negative : Bool) (n d : Nat) :
    withSign negative (10 * n + d) = 10 * withSign negative n + withSign negative d := by
  cases negative <;> simp only [withSign] <;> omega

/-! ## Types of integers -/

/-- The integers of so many bits, without negative ones or with them. -/
inductive IntegerType
  | unsigned (bits : Nat)
  | signed (bits : Nat)

namespace IntegerType

def isSigned : IntegerType → Bool
  | unsigned _ => false
  | signed _ => true

/-- The type has the number. -/
def Has : IntegerType → Int → Prop
  | unsigned bits, n => 0 ≤ n ∧ n < 2 ^ bits
  | signed bits, n => -2 ^ (bits - 1) ≤ n ∧ n < 2 ^ (bits - 1)

instance (t : IntegerType) (n : Int) : Decidable (t.Has n) := by
  cases t <;> exact instDecidableAnd

variable {t : IntegerType} {m n : Int}

theorem has_zero (t : IntegerType) : t.Has 0 := by
  cases t with
  | unsigned bits => exact ⟨Int.le_refl 0, Int.pow_pos (by decide)⟩
  | signed bits =>
    have hpos : (0 : Int) < 2 ^ (bits - 1) := Int.pow_pos (by decide)
    exact ⟨by omega, hpos⟩

/-- A type has the numbers between one of its own and zero. -/
theorem Has.toward_zero (h : t.Has n) (hm : 0 ≤ m ∧ m ≤ n ∨ n ≤ m ∧ m ≤ 0) : t.Has m := by
  have hzero := t.has_zero
  cases t <;> unfold Has at h hzero ⊢ <;> omega

/-- What a number was before a digit was put to it is nearer to zero, and so is ten times that. -/
theorem Has.of_push {negative : Bool} {k d : Nat}
    (h : t.Has (withSign negative (10 * k + d))) :
    t.Has (withSign negative k) ∧ t.Has (10 * withSign negative k) := by
  cases negative <;> simp only [withSign] at h ⊢ <;>
    exact ⟨h.toward_zero (by omega), h.toward_zero (by omega)⟩

/-! ## Spelled numbers -/

/-- The characters spell the number. A minus sign is for types with negative numbers only. -/
inductive Spells (t : IntegerType) : List Char → Int → Prop
  | plain {ds : List Char} (digits : AreDigits ds) : Spells t ds (positionalValue ds)
  | plus {ds : List Char} (digits : AreDigits ds) : Spells t ('+' :: ds) (positionalValue ds)
  | minus {ds : List Char} (signed : t.isSigned = true) (digits : AreDigits ds) :
      Spells t ('-' :: ds) (-positionalValue ds)

/-- The text writes the number: what is left of it without the white space at its ends spells it. -/
def Writes (t : IntegerType) (text : String) (n : Int) : Prop :=
  ∃ cs, Text.IsTrimmed Text.isBlank text.toList cs ∧ t.Spells cs n

theorem writes_iff {text : String} :
    t.Writes text n ↔ t.Spells (Text.trimChars text.toList) n := by
  constructor
  · rintro ⟨cs, htrim, hspells⟩
    rwa [Text.trimChars, Text.trimWhile_eq_iff.2 htrim]
  · intro hspells
    exact ⟨_, Text.trimWhile_eq_iff.1 rfl, hspells⟩

/-- What comes of a sign and digits, if `run` is what comes of the digits. -/
def readBy (t : IntegerType) (run : Bool → List Char → Option Int) : List Char → Option Int
  | '-' :: ds => if t.isSigned then run true ds else none
  | '+' :: ds => run false ds
  | ds => run false ds

/-- Numbers are read as they are spelled, as far as `run` gives them for their digits. -/
theorem readBy_eq_some_iff {run : Bool → List Char → Option Int} {P : Int → Prop}
    (hrun : ∀ negative ds n, run negative ds = some n ↔
      AreDigits ds ∧ withSign negative (positionalValue ds) = n ∧ P n) {cs : List Char} :
    t.readBy run cs = some n ↔ t.Spells cs n ∧ P n := by
  constructor
  · intro h
    unfold readBy at h
    split at h
    · split_ifs at h with hsigned
      obtain ⟨hdigits, rfl, hn⟩ := (hrun _ _ _).1 h
      exact ⟨.minus hsigned hdigits, hn⟩
    · obtain ⟨hdigits, rfl, hn⟩ := (hrun _ _ _).1 h
      exact ⟨.plus hdigits, hn⟩
    · obtain ⟨hdigits, rfl, hn⟩ := (hrun _ _ _).1 h
      exact ⟨.plain hdigits, hn⟩
  · rintro ⟨hdigits | hdigits | ⟨hsigned, hdigits⟩, hn⟩
    · have hread : t.readBy run cs = run false cs := by
        unfold readBy
        split
        · exact absurd rfl (hdigits.head_ne rfl)
        · exact absurd rfl (hdigits.head_ne rfl)
        · rfl
      rw [hread]
      exact (hrun _ _ _).2 ⟨hdigits, rfl, hn⟩
    · exact (hrun _ _ _).2 ⟨hdigits, rfl, hn⟩
    · rw [readBy, if_pos hsigned]
      exact (hrun _ _ _).2 ⟨hdigits, rfl, hn⟩

/-! ## Reading -/

/-- The whole number that a sign and digits write. -/
def readWhole (t : IntegerType) (cs : List Char) : Option Int :=
  t.readBy (fun negative ds => (Numeral.digits? ds).map (withSign negative)) cs

theorem readWhole_eq_some_iff {cs : List Char} : t.readWhole cs = some n ↔ t.Spells cs n := by
  have hrun (negative : Bool) (ds : List Char) (n : Int) :
      (Numeral.digits? ds).map (withSign negative) = some n ↔
        AreDigits ds ∧ withSign negative (positionalValue ds) = n ∧ True := by
    simp only [Option.map_eq_some_iff, Numeral.digits?_eq_some_iff, and_true]
    constructor
    · rintro ⟨k, ⟨hdigits, rfl⟩, hn⟩
      exact ⟨hdigits, hn⟩
    · rintro ⟨hdigits, hn⟩
      exact ⟨_, ⟨hdigits, rfl⟩, hn⟩
  exact (readBy_eq_some_iff hrun).trans (and_iff_left trivial)

theorem natural?_eq_readWhole (bits : Nat) (cs : List Char) :
    (Numeral.natural? cs).map Nat.cast = (unsigned bits).readWhole cs := by
  unfold Numeral.natural? readWhole readBy
  split
  · rfl
  · split
    · rfl
    · next hplus => exact absurd rfl (hplus _)
    · rfl

theorem integer?_eq_readWhole (bits : Nat) (cs : List Char) :
    Numeral.integer? cs = (signed bits).readWhole cs := by
  have hsplit {negative : Bool} {ds : List Char} (h : Numeral.splitSign cs = (negative, ds)) :
      Numeral.integer? cs = (Numeral.digits? ds).map (withSign negative) := by
    unfold Numeral.integer?
    rw [h]
    cases hds : Numeral.digits? ds with
    | none => simp [hds]
    | some n => cases negative <;> simp [hds, withSign]
  unfold readWhole readBy
  split
  · exact hsplit rfl
  · exact hsplit rfl
  · next hminus hplus =>
    refine hsplit ?_
    unfold Numeral.splitSign
    split
    · exact absurd rfl (hminus _)
    · exact absurd rfl (hplus _)
    · rfl

/-- The number that a text gives for a setting of the type. -/
def read? : IntegerType → String → Option Int
  | unsigned bits, text => (Settings.unsigned? bits text).map Nat.cast
  | signed bits, text => Settings.signed? bits text

/-- **Reading.** A text gives the number that it writes, if the type has it. -/
theorem read?_eq_some_iff {text : String} : t.read? text = some n ↔ t.Writes text n ∧ t.Has n := by
  rw [writes_iff, ← readWhole_eq_some_iff]
  cases t with
  | unsigned bits =>
    rw [← natural?_eq_readWhole]
    simp only [read?, Settings.unsigned?, Option.map_eq_some_iff, Option.filter_eq_some_iff,
      decide_eq_true_eq]
    constructor
    · rintro ⟨k, ⟨hk, hfits⟩, rfl⟩
      exact ⟨⟨k, hk, rfl⟩, Int.natCast_nonneg k, by exact_mod_cast hfits⟩
    · rintro ⟨⟨k, hk, rfl⟩, -, hfits⟩
      exact ⟨k, ⟨hk, by exact_mod_cast hfits⟩, rfl⟩
  | signed bits =>
    rw [← integer?_eq_readWhole, read?, Settings.signed?, Option.filter_eq_some_iff,
      Bool.and_eq_true, decide_eq_true_eq, decide_eq_true_eq]
    rfl

/-- The edges of a type, and one step over them. -/
example :
    ["65535", "65536", "+000065535", "-1", "-0", "+", ""].map (unsigned 16).read? =
        [some 65535, none, some 65535, none, none, none, none] ∧
      [" -9223372036854775808\u3000", "-9223372036854775809", "9223372036854775807",
          "9223372036854775808"].map (signed 64).read? =
        [some (-9223372036854775808), none, some 9223372036854775807, none] := by
  decide +kernel

/-! ## Machine arithmetic -/

/-- The number, if the type has it. -/
def checked? (t : IntegerType) (n : Int) : Option Int := if t.Has n then some n else none

theorem checked?_eq_some_iff : t.checked? m = some n ↔ m = n ∧ t.Has n := by
  unfold checked?
  split_ifs with h
  · rw [Option.some.injEq]
    exact ⟨fun heq => ⟨heq, heq ▸ h⟩, And.left⟩
  · exact iff_of_false nofun fun ⟨heq, hn⟩ => h (heq ▸ hn)

/-- One more digit: the number is made ten times as far from zero, and the digit moves it on. Either
step may leave the type. -/
def push? (t : IntegerType) (negative : Bool) (n : Int) (c : Char) : Option Int := do
  let shifted ← t.checked? (10 * n)
  if c.isDigit then t.checked? (shifted + withSign negative (Numeral.digitValue c)) else none

/-- What machine arithmetic makes of the characters of a number. -/
def accumulate? (t : IntegerType) (cs : List Char) : Option Int :=
  t.readBy (fun negative ds => if ds.isEmpty then none else ds.foldlM (t.push? negative) 0) cs

theorem push?_eq_some_iff {negative : Bool} {c : Char} :
    t.push? negative m c = some n ↔
      t.Has (10 * m) ∧ c.isDigit = true ∧
        10 * m + withSign negative (Numeral.digitValue c) = n ∧ t.Has n := by
  unfold push?
  constructor
  · intro h
    obtain ⟨shifted, hshifted, h⟩ := Option.bind_eq_some_iff.1 h
    obtain ⟨rfl, htype⟩ := checked?_eq_some_iff.1 hshifted
    split_ifs at h with hdigit
    exact ⟨htype, hdigit, checked?_eq_some_iff.1 h⟩
  · rintro ⟨htype, hdigit, h⟩
    refine Option.bind_eq_some_iff.2 ⟨_, checked?_eq_some_iff.2 ⟨rfl, htype⟩, ?_⟩
    rw [if_pos hdigit]
    exact checked?_eq_some_iff.2 h

/-- By induction on the digits from the last one on: all before it give a number of the type as soon
as all of them do. -/
theorem foldlM_push?_eq_some_iff {negative : Bool} {ds : List Char} :
    ds.foldlM (t.push? negative) 0 = some n ↔
      (∀ c ∈ ds, c.isDigit = true) ∧ withSign negative (positionalValue ds) = n ∧ t.Has n := by
  -- From the right, as the machine multiplies what it has by ten and adds the next digit: a number
  -- in range has had all its leading parts in range.
  induction ds using List.reverseRecOn generalizing n with
  | nil =>
    have hzero : withSign negative (positionalValue []) = 0 := by cases negative <;> rfl
    rw [hzero, List.foldlM_nil]
    constructor
    · rintro ⟨⟩
      exact ⟨List.forall_mem_nil _, rfl, t.has_zero⟩
    · rintro ⟨-, rfl, -⟩
      rfl
  | append_singleton ds c ih =>
    have hlast : (ds ++ [c]).foldlM (t.push? negative) 0 =
        (ds.foldlM (t.push? negative) 0).bind fun m => t.push? negative m c := by
      rw [List.foldlM_append]
      simp
    rw [hlast, Option.bind_eq_some_iff, positionalValue_concat, withSign_push,
      List.forall_mem_append, List.forall_mem_singleton]
    simp only [ih, push?_eq_some_iff]
    constructor
    · rintro ⟨_, ⟨hdigits, rfl, -⟩, -, hdigit, heq, hn⟩
      exact ⟨⟨hdigits, hdigit⟩, heq, hn⟩
    · rintro ⟨⟨hdigits, hdigit⟩, heq, hn⟩
      rw [← heq, ← withSign_push] at hn
      obtain ⟨hbefore, hshifted⟩ := hn.of_push
      rw [withSign_push, heq] at hn
      exact ⟨_, ⟨hdigits, rfl, hbefore⟩, hshifted, hdigit, heq, hn⟩

/-- **Machine arithmetic** is exact. -/
theorem read?_eq_accumulate? (t : IntegerType) (text : String) :
    t.read? text = t.accumulate? (Text.trimChars text.toList) := by
  have hrun (negative : Bool) (ds : List Char) (n : Int) :
      (if ds.isEmpty then none else ds.foldlM (t.push? negative) 0) = some n ↔
        AreDigits ds ∧ withSign negative (positionalValue ds) = n ∧ t.Has n := by
    cases ds with
    | nil => exact iff_of_false nofun fun h => h.1.1 rfl
    | cons c ds =>
      refine foldlM_push?_eq_some_iff.trans (and_congr_left fun _ => ?_)
      exact (and_iff_right (List.cons_ne_nil c ds)).symm
  apply Option.ext
  intro n
  rw [read?_eq_some_iff, writes_iff]
  exact (readBy_eq_some_iff hrun).symm

end IntegerType

/-! ## Settings -/

/-- The settings that are numbers. -/
inductive NumericSetting
  | listenPort
  | maxConnections
  | defaultLimit
  | maxLimit
  | maxStatementLength
  | timeoutMs
  | maxRows
deriving DecidableEq

namespace NumericSetting

def variableName : NumericSetting → String
  | listenPort => "PORT"
  | maxConnections => "DATABASE_MAX_CONNECTIONS"
  | defaultLimit => "QUERY_DEFAULT_LIMIT"
  | maxLimit => "QUERY_MAX_LIMIT"
  | maxStatementLength => "RAW_SQL_MAX_LENGTH"
  | timeoutMs => "RAW_SQL_TIMEOUT_MS"
  | maxRows => "RAW_SQL_MAX_ROWS"

def type : NumericSetting → IntegerType
  | listenPort => .unsigned 16
  | maxConnections => .unsigned 32
  | defaultLimit | maxLimit => .signed 64
  | maxStatementLength | timeoutMs | maxRows => .unsigned 64

def default : NumericSetting → Int
  | listenPort => 8080
  | maxConnections => 5
  | defaultLimit => 100
  | maxLimit => 1000
  | maxStatementLength => 10000
  | timeoutMs => 5000
  | maxRows => 1000

def valueIn (s : Settings) : NumericSetting → Int
  | listenPort => s.listenPort
  | maxConnections => s.maxConnections
  | defaultLimit => s.limits.defaultLimit
  | maxLimit => s.limits.maxLimit
  | maxStatementLength => s.guard.maxLength
  | timeoutMs => s.timeoutMs
  | maxRows => s.maxRows

variable {x y : NumericSetting} {env : Environment}

def all : List NumericSetting :=
  [listenPort, maxConnections, defaultLimit, maxLimit, maxStatementLength, timeoutMs, maxRows]

theorem mem_all (x : NumericSetting) : x ∈ all := by
  cases x <;> decide

/-- No two settings are read from one variable. -/
theorem nodup_variableNames : ("DATABASE_URL" :: all.map variableName).Nodup := by
  decide

theorem variableName_injective (h : x.variableName = y.variableName) : x = y :=
  List.inj_on_of_nodup_map (List.nodup_cons.1 nodup_variableNames).2 x.mem_all y.mem_all h

theorem variableName_ne (x : NumericSetting) : x.variableName ≠ "DATABASE_URL" := by
  intro h
  apply (List.nodup_cons.1 nodup_variableNames).1
  rw [← h]
  exact List.mem_map_of_mem x.mem_all

theorem has_default (x : NumericSetting) : x.type.Has x.default := by
  cases x <;> decide

/-- A setting is what its own variable gives, or its default. -/
theorem valueIn_ofEnvironment (x : NumericSetting) (env : Environment) :
    x.valueIn (.ofEnvironment env) =
      ((env x.variableName).bind x.type.read?).getD x.default := by
  have hunsigned (name : String) (bits default : Nat) :
      ((Settings.valueOr env name (Settings.unsigned? bits) default : Nat) : Int) =
        ((env name).bind (IntegerType.unsigned bits).read?).getD default := by
    unfold Settings.valueOr
    cases env name with
    | none => rfl
    | some text =>
      simp only [Option.bind_some, IntegerType.read?]
      cases Settings.unsigned? bits text <;> rfl
  cases x with
  | listenPort | maxConnections | maxStatementLength | timeoutMs | maxRows => exact hunsigned _ _ _
  | defaultLimit | maxLimit => rfl

end NumericSetting

namespace Settings

/-- The settings that are read from an environment, variable by variable. -/
structure FallsBack (env : Environment) : Prop where
  /-- A number that the variable writes is the setting, if the type has it, -/
  given : ∀ (x : NumericSetting) text n, env x.variableName = some text → x.type.Writes text n →
    x.type.Has n → x.valueIn (ofEnvironment env) = n
  /-- and without such a number there is the default. -/
  standard : ∀ x : NumericSetting,
    (∀ text n, env x.variableName = some text → x.type.Writes text n → ¬ x.type.Has n) →
      x.valueIn (ofEnvironment env) = x.default
  /-- No value is outside its type. -/
  has : ∀ x : NumericSetting, x.type.Has (x.valueIn (ofEnvironment env))
  /-- Machine arithmetic gives the same. -/
  accumulated : ∀ (x : NumericSetting) text, env x.variableName = some text →
    x.valueIn (ofEnvironment env) =
      (x.type.accumulate? (Text.trimChars text.toList)).getD x.default
  /-- A setting depends on its own variable, -/
  own : ∀ (x : NumericSetting) env', env' x.variableName = env x.variableName →
    x.valueIn (ofEnvironment env') = x.valueIn (ofEnvironment env)
  /-- so that any other text in the variable of one leaves all others as they are. -/
  alone : ∀ (x : NumericSetting) text,
    let changed := ofEnvironment (Function.update env x.variableName text)
    (∀ y, y ≠ x → y.valueIn changed = y.valueIn (ofEnvironment env)) ∧
      changed.databaseUrl = (ofEnvironment env).databaseUrl

/-- **Falling back**, in every environment. -/
theorem fallsBack_ofEnvironment (env : Environment) : FallsBack env where
  given x text n henv hwrites hn := by
    have hread : x.type.read? text = some n := IntegerType.read?_eq_some_iff.2 ⟨hwrites, hn⟩
    rw [x.valueIn_ofEnvironment, henv, Option.bind_some, hread, Option.getD_some]
  standard x hnone := by
    have hread : (env x.variableName).bind x.type.read? = none := by
      rw [Option.bind_eq_none_iff]
      intro text henv
      rw [Option.eq_none_iff_forall_ne_some]
      intro n hread
      obtain ⟨hwrites, hn⟩ := IntegerType.read?_eq_some_iff.1 hread
      exact hnone text n henv hwrites hn
    rw [x.valueIn_ofEnvironment, hread, Option.getD_none]
  has x := by
    rw [x.valueIn_ofEnvironment]
    cases hread : (env x.variableName).bind x.type.read? with
    | none => exact x.has_default
    | some n =>
      obtain ⟨text, -, hread⟩ := Option.bind_eq_some_iff.1 hread
      exact (IntegerType.read?_eq_some_iff.1 hread).2
  accumulated x text henv := by
    rw [x.valueIn_ofEnvironment, henv, Option.bind_some, IntegerType.read?_eq_accumulate?]
  own x env' henv := by rw [x.valueIn_ofEnvironment, x.valueIn_ofEnvironment, henv]
  alone x text := by
    refine ⟨fun y hne => ?_, ?_⟩
    · have hname : y.variableName ≠ x.variableName :=
        fun h => hne (NumericSetting.variableName_injective h)
      rw [y.valueIn_ofEnvironment, y.valueIn_ofEnvironment, Function.update_of_ne hname]
    · have hname : "DATABASE_URL" ≠ x.variableName := x.variableName_ne.symm
      show valueOr _ _ _ _ = valueOr _ _ _ _
      rw [valueOr, Function.update_of_ne hname, valueOr]

end Settings

/-- A port that is one too large, and the least number of 64 bits among white space. -/
def sampleEnvironment : Environment
  | "PORT" => some "65536"
  | "QUERY_MAX_LIMIT" => some " -09223372036854775808\u3000"
  | _ => none

theorem fallsBack_ofEnvironment_sample :
    (IntegerType.signed 64).Writes " -09223372036854775808\u3000" (-9223372036854775808) ∧
      (IntegerType.signed 64).Has (-9223372036854775808) ∧
      NumericSetting.maxLimit.valueIn (Settings.ofEnvironment sampleEnvironment) =
        -9223372036854775808 ∧
      NumericSetting.listenPort.valueIn (Settings.ofEnvironment sampleEnvironment) = 8080 := by
  have hread : (IntegerType.signed 64).read? " -09223372036854775808\u3000" =
      some (-9223372036854775808) := by
    decide +kernel
  have hport : (IntegerType.unsigned 16).read? "65536" = none := by
    decide +kernel
  obtain ⟨hwrites, hhas⟩ := IntegerType.read?_eq_some_iff.1 hread
  refine ⟨hwrites, hhas, ?_, ?_⟩
  · exact (Settings.fallsBack_ofEnvironment sampleEnvironment).given .maxLimit _ _ rfl hwrites hhas
  · refine (Settings.fallsBack_ofEnvironment sampleEnvironment).standard .listenPort ?_
    intro text n htext hwrites hhas
    cases htext
    cases hport.symm.trans (IntegerType.read?_eq_some_iff.2 ⟨hwrites, hhas⟩)

end BillingQuery
