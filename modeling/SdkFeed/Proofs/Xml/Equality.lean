import Mathlib.Logic.Basic
import SdkFeed.Xml.Namespace

/-! Whether two trees are equal can be decided, by going through both of them element by element. -/
namespace SdkFeed.Xml.Element

variable {ν : Type} [DecidableEq ν]

mutual

/-- Whether two elements are equal. -/
def decideEq : (a b : Element ν) → Decidable (a = b)
  | mk name attributes line content scope,
    mk otherName otherAttributes otherLine otherContent otherScope =>
    have := decideContentEq content otherContent
    decidable_of_iff (name = otherName ∧ attributes = otherAttributes ∧ line = otherLine ∧
      content = otherContent ∧ scope = otherScope) (by simp)

/-- Whether two lists of pieces of content are equal. -/
def decideContentEq : (a b : List (Item (Element ν))) → Decidable (a = b)
  | [], [] => isTrue rfl
  | .text s :: rest, .text t :: otherRest =>
    have := decideContentEq rest otherRest
    decidable_of_iff (s = t ∧ rest = otherRest) (by simp)
  | .reference :: rest, .reference :: otherRest =>
    have := decideContentEq rest otherRest
    decidable_of_iff (rest = otherRest) (by simp)
  | .child element :: rest, .child other :: otherRest =>
    have := decideEq element other
    have := decideContentEq rest otherRest
    decidable_of_iff (element = other ∧ rest = otherRest) (by simp)
  | [], _ :: _ | _ :: _, [] => isFalse nofun
  | .text _ :: _, .reference :: _ | .text _ :: _, .child _ :: _ | .reference :: _, .text _ :: _
  | .reference :: _, .child _ :: _ | .child _ :: _, .text _ :: _
  | .child _ :: _, .reference :: _ => isFalse nofun

end

instance : DecidableEq (Element ν) :=
  decideEq

instance : DecidableEq (Item (Element ν)) := fun item other =>
  have := decideContentEq [item] [other]
  decidable_of_iff ([item] = [other]) (by simp)

end SdkFeed.Xml.Element
