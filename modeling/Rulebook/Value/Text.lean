import Rulebook.Value

/-
  The texts of values.

  Key definitions include:
    * `Value.text`
    * `Environment.fieldTexts`
    * `Environment.text`
-/

namespace Rulebook

/- Texts in braces, with commas between them. -/
def inBraces (texts : List String) : String :=
  "\x7b" ++ ", ".intercalate texts ++ "\x7d"

mutual

/- The text of a value.  A string is shown as it is. -/
def Value.text : Value → String
  | .null => "null"
  | .boolean true => "true"
  | .boolean false => "false"
  | .number n => n.text
  | .string s => s
  | .mapping fields => inBraces fields.fieldTexts

/- The fields of an environment as `key=value`. -/
def Environment.fieldTexts : Environment → List String
  | .empty => []
  | .field key value rest =>
      (key ++ "=" ++ value.text) :: rest.fieldTexts

end

/- The text of an environment. -/
def Environment.text (env : Environment) : String :=
  inBraces env.fieldTexts

end Rulebook
