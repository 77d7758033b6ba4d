import ApiReference.Text.Quoted

/-!
What can go wrong in a run, by the stage that notices it, with the text shown to the user.
-/

namespace ApiReference

/-- A failure, by the stage that noticed it. -/
inductive Error where
  | config (detail : String)
  | network (detail : String)
  | parse (detail : String)
  | selector (detail : String)
  | classification (detail : String)
  | io (path cause : String)
  | validation (detail : String)
  | serialization (detail : String)
  deriving DecidableEq, Inhabited

def Error.message : Error → String
  | .config detail => "config error: " ++ detail
  | .network detail => "network error: " ++ detail
  | .parse detail => "parse error: " ++ detail
  | .selector detail => "selector error: " ++ detail
  | .classification detail => "classification error: " ++ detail
  | .io path cause => "I/O error at " ++ Text.quotedPath path ++ ": " ++ cause
  | .validation detail => "validation error: " ++ detail
  | .serialization detail => "serialization error: " ++ detail

end ApiReference
