import ApiReference.Error
import ApiReference.Settings.Basic
import ApiReference.Url.Basic

/-!
The address that the settings name as the source of the page.
-/

namespace ApiReference

/-- The address of the page in its usual form. Only addresses of the web are accepted. -/
def SourceSettings.address (s : SourceSettings) : Except Error String :=
  match WebAddress.ofText s.url with
  | .ok a => .ok a.text
  | .error (.otherScheme scheme) =>
    .error (.config ((UrlFault.otherScheme scheme).message ++ s!" in source url '{s.url}'"))
  | .error fault => .error (.config (s!"invalid source url '{s.url}': " ++ fault.message))

end ApiReference
