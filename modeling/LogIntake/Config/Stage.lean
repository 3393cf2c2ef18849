import LogIntake.Config.Variables

/-!
# Stages

The **stage** is what an instance of the service is run for: production, where the variable
`APP_ENV` says so in any case of letters, and development otherwise.
-/

namespace LogIntake.Config

/-- What an instance is run for. -/
inductive Stage where
  | development
  | production
  deriving DecidableEq, Repr

/-- The stage that the variables name. -/
def Stage.ofVariables (vars : Variables) : Stage :=
  if (vars.textOr "APP_ENV" "development").toList.map Char.toLower = "production".toList then
    .production
  else .development

end LogIntake.Config
