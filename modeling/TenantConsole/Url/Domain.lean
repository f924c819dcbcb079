import TenantConsole.Url.Label
import TenantConsole.Url.Percent

/-!
# Domain names

A domain name is compared without regard to case and to variants of its characters, so each
character is replaced by what it stands for, and canonically equal names are made equal. Labels with
characters beyond ASCII stand in their coded form.
-/

namespace TenantConsole.Domain

/-- What a name says: each character replaced by what it stands for, and composed. -/
def folded? (name : String) : Option (List Char) :=
  (name.toList.mapM fold?).map fun images => Text.normalize images.flatten

/-- The labels of a folded name. -/
def labels? (name : List Char) : Option (List Label) :=
  if name.any Label.isForbidden then none else (name.splitOn '.').mapM Label.ofText?

/-- Whether labels may stand in one name. One that is written from right to left makes all of them
keep to one direction each. -/
def fitTogether (labels : List Label) : Bool :=
  labels.all Label.isSound
    && (labels.all (fun label => !label.text.any Label.isRightToLeft)
      || labels.all fun label => Label.keepsDirection label.text)

/-- The written form of a domain name, if it is one. -/
def ofText? (text : String) : Option (List Char) := do
  let labels ← labels? (← folded? (← Percent.decode? text))
  if fitTogether labels then some (['.'].intercalate (labels.map Label.written)) else none

end TenantConsole.Domain
