import LogIntake.Number.Single
import LogIntake.Number.Word
import LogIntake.Text.Blank
import LogIntake.Text.Utf8

/-!
# Environment variables

Settings come from the **environment**, which gives names values of arbitrary bytes. A variable
whose value is not UTF-8 counts as not set, and where a value is to be read as a number or truth
value a blank one does too. A value that is set and cannot be read is an error and never gives
way to a default.
-/

namespace LogIntake.Config

/-- Why settings cannot be loaded. -/
inductive SettingError where
  | missing (key : String)
  | unreadable (key detail : String)
  | unusable (key detail : String)
  deriving DecidableEq, Repr

/-- The message of a setting error. -/
def SettingError.message : SettingError → String
  | .missing key => s!"Environment variable '{key}' is required but not set"
  | .unreadable key detail => s!"Failed to parse environment variable '{key}': {detail}"
  | .unusable key detail => s!"Invalid value for '{key}': {detail}"

/-! ### Readable values -/

/-- Reads digits onto a number that must stay below a bound. At each character a wrong digit is
found before the number is found too large. -/
def readDigits (bound : Nat) (value : Nat) : List Char → Except String Nat
  | [] => .ok value
  | c :: rest =>
    if !c.isDigit then .error "invalid digit found in string"
    else
      let value := value * 10 + (c.toNat - 48)
      if value < bound then readDigits bound value rest
      else .error "number too large to fit in target type"

/-- Reads a natural number below a bound, with an optional plus sign. -/
def readNat (bound : Nat) (s : String) : Except String Nat :=
  match s.toList with
  | [] => .error "cannot parse integer from empty string"
  | ['+'] => .error "invalid digit found in string"
  | '+' :: ds => readDigits bound 0 ds
  | ds => readDigits bound 0 ds

/-- Reads an integer of 64 bits, with an optional sign. -/
def readInt (s : String) : Except String Int :=
  match s.toList with
  | ['-'] => .error "invalid digit found in string"
  | '-' :: ds =>
    match readDigits (Number.signed64 + 1) 0 ds with
    | .ok n => .ok (-(n : Int))
    | .error e =>
      .error (if e = "number too large to fit in target type"
        then "number too small to fit in target type" else e)
  | _ => (readNat Number.signed64 s).map Int.ofNat

/-- Reads a truth value. -/
def readBool : String → Except String Bool
  | "true" => .ok true
  | "false" => .ok false
  | _ => .error "provided string was not `true` or `false`"

/-- Reads a single-precision number. -/
def readSingle (s : String) : Except String Number.Single :=
  match Number.Single.read? s with
  | some x => .ok x
  | none => .error "invalid float literal"

/-! ### Variables -/

/-- The variables of a process with their values; of a name that stands there twice the first
counts. -/
structure Variables where
  values : List (String × List UInt8)

namespace Variables

/-- The value of a variable as a text, if it is set. -/
def text? (vars : Variables) (key : String) : Option String :=
  (vars.values.lookup key).bind Text.Utf8.decode?

/-- The value of a variable, or a default. -/
def textOr (vars : Variables) (key default : String) : String :=
  (vars.text? key).getD default

/-- The value of a variable that must be set. -/
def required (vars : Variables) (key : String) : Except SettingError String :=
  match vars.text? key with
  | some s => .ok s
  | none => .error (.missing key)

/-- The value of a variable, if it is set and not blank. -/
def nonBlank? (vars : Variables) (key : String) : Option String :=
  (vars.text? key).filter fun s => !Text.isBlankText s

/-- The value of a variable as `read` reads it without the blanks around it, or a default where
the variable is not set or blank. -/
def readOr {α : Type} (vars : Variables) (key : String) (read : String → Except String α)
    (default : α) : Except SettingError α :=
  match vars.nonBlank? key with
  | none => .ok default
  | some raw =>
    match read (Text.trim raw) with
    | .ok a => .ok a
    | .error e => .error (.unreadable key s!"'{raw}': {e}")

/-- A number below a bound. -/
def natOr (vars : Variables) (key : String) (bound default : Nat) : Except SettingError Nat :=
  vars.readOr key (readNat bound) default

/-- A number below a bound that is not zero. -/
def positiveOr (vars : Variables) (key : String) (bound default : Nat) :
    Except SettingError Nat := do
  let n ← vars.natOr key bound default
  if n < 1 then .error (.unusable key "must be at least 1") else pure n

end Variables

end LogIntake.Config
