import Mathlib.Data.Option.Basic
import SdkFeed.Proofs.Success
import SdkFeed.Xml.Read

/-! The attributes of a start tag, those with declared defaults among them. No two of them have one
name, and in a document whose names are in order none of them declares a prefix without a name. -/
namespace SdkFeed.Xml

/-- The name of an attribute that would declare a prefix and does not name it. -/
def namelessPrefix : String :=
  "xmlns:"

/-- The rules of a document type are for different attributes, and all of these may be written. -/
structure Doctype.IsSound (doctype : Doctype) : Prop where
  distinct : doctype.attributes.Pairwise fun a b => ¬(a.element = b.element ∧ a.key = b.key)
  named : ∀ rule ∈ doctype.attributes, rule.key ≠ namelessPrefix

/-- The attributes of a tag have different names, and all of these may be written. -/
structure HasSoundKeys (attributes : List (String × String)) : Prop where
  distinct : attributes.Pairwise fun a b => a.1 ≠ b.1
  named : ∀ pair ∈ attributes, pair.1 ≠ namelessPrefix

namespace Word

theorem form_namelessPrefix {word : Word} (hText : word.text = namelessPrefix) :
    word.form = .token := by
  rw [form, hText]
  decide

theorem checkQualified_named {word : Word} {mark : Option Char}
    (hCheck : word.checkQualified mark = .ok ()) : word.text ≠ namelessPrefix := by
  intro hText
  simp only [checkQualified, form_namelessPrefix hText] at hCheck
  cases mark <;> cases hCheck

theorem checkSplit_named {word : Word} (hCheck : word.checkSplit = .ok ()) :
    word.text ≠ namelessPrefix := by
  intro hText
  have hSpan : word.text.toList.span (· != ':') = ("xmlns".toList, [':']) := by
    rw [hText]
    decide
  rw [checkSplit, hSpan] at hCheck
  cases hCheck

end Word

namespace Markup

/-- Every declaration is checked, whether or not declarations are in force before it. -/
theorem checkAll_member {standalone isReading : Bool} {markups : List Markup}
    (hCheck : checkAll standalone isReading markups = .ok ()) :
    ∀ markup ∈ markups, ∃ isReading, markup.checkNames isReading = .ok () := by
  induction markups generalizing isReading with
  | nil => intro markup hMarkup; cases hMarkup
  | cons first rest ih =>
      obtain ⟨done, hFirst, hRest⟩ := bind_eq_ok.mp hCheck
      intro markup hMarkup
      rcases List.mem_cons.mp hMarkup with rfl | hMarkup
      · exact ⟨isReading, hFirst⟩
      · exact ih hRest markup hMarkup

theorem checkNames_attributes {element : Word} {definitions : List AttributeDefinition}
    {isReading : Bool} (hCheck : (attributes element definitions).checkNames isReading = .ok ()) :
    ∀ definition ∈ definitions, definition.name.text ≠ namelessPrefix := by
  obtain ⟨done, _, hDefinitions⟩ := bind_eq_ok.mp hCheck
  intro definition hMember
  obtain ⟨done, hName, _⟩ := bind_eq_ok.mp (ok_of_forM hDefinitions definition hMember)
  exact Word.checkQualified_named hName

end Markup

namespace Doctype

theorem empty_isSound (standalone isOpen : Bool) :
    IsSound { empty standalone with isOpen } where
  distinct := List.Pairwise.nil
  named := by intro rule hRule; cases hRule

theorem IsSound.addRule {doctype : Doctype} (hSound : doctype.IsSound) {rule : AttributeRule}
    (hNamed : rule.key ≠ namelessPrefix) : (doctype.addRule rule).IsSound := by
  rw [Doctype.addRule]
  split
  · exact hSound
  · rename_i hNew
    have hNone : doctype.rule? rule.element rule.key = none := by simpa using hNew
    constructor
    · refine List.pairwise_append.mpr ⟨hSound.distinct, List.pairwise_singleton _ _, ?_⟩
      rintro earlier hEarlier _ hLast ⟨hElement, hKey⟩
      obtain rfl := List.mem_singleton.mp hLast
      exact List.find?_eq_none.mp hNone earlier hEarlier (by simp [hElement, hKey])
    · intro member hMember
      rcases List.mem_append.mp hMember with hMember | hMember
      · exact hSound.named member hMember
      · obtain rfl := List.mem_singleton.mp hMember
        exact hNamed

theorem IsSound.define? {doctype after : Doctype} (hSound : doctype.IsSound) {element : Word}
    {definition : AttributeDefinition} (hNamed : definition.name.text ≠ namelessPrefix)
    (hDefine : doctype.define? element definition = some after) : after.IsSound := by
  obtain ⟨value, _, hAfter⟩ := Option.bind_eq_some_iff.mp hDefine
  obtain rfl := Option.some.inj hAfter
  exact hSound.addRule hNamed

theorem IsSound.defineAll {doctype after : Doctype} (hSound : doctype.IsSound) {element : Word}
    {definitions : List AttributeDefinition}
    (hNamed : ∀ definition ∈ definitions, definition.name.text ≠ namelessPrefix)
    (hDefine : definitions.foldlM (Doctype.define? element) doctype = some after) :
    after.IsSound := by
  induction definitions generalizing doctype with
  | nil => exact Option.some.inj hDefine ▸ hSound
  | cons first rest ih =>
      obtain ⟨middle, hFirst, hRest⟩ := Option.bind_eq_some_iff.mp hDefine
      exact ih (hSound.define? (hNamed first List.mem_cons_self) hFirst)
        (fun definition hMember => hNamed definition (List.mem_cons_of_mem _ hMember)) hRest

theorem IsSound.addEntity {doctype : Doctype} (hSound : doctype.IsSound) (name : String)
    (entity : Entity) : (doctype.addEntity name entity).IsSound := by
  rw [Doctype.addEntity]
  split
  · exact hSound
  · exact ⟨hSound.distinct, hSound.named⟩

theorem IsSound.declare? {doctype after : Doctype} (hSound : doctype.IsSound) {markup : Markup}
    {isReading : Bool} (hCheck : markup.checkNames isReading = .ok ())
    (hDeclare : doctype.declare? markup = some after) : after.IsSound := by
  cases markup with
  | reference name =>
      obtain rfl := Option.some.inj hDeclare
      exact ⟨hSound.distinct, hSound.named⟩
  | entity name definition =>
      simp only [Doctype.declare?] at hDeclare
      split at hDeclare
      · exact Option.some.inj hDeclare ▸ hSound
      · obtain ⟨entity, _, hAfter⟩ := Option.bind_eq_some_iff.mp hDeclare
        exact Option.some.inj hAfter ▸ hSound.addEntity _ _
  | parameter name definition =>
      simp only [Doctype.declare?] at hDeclare
      split at hDeclare
      · exact Option.some.inj hDeclare ▸ hSound
      · obtain ⟨entity, _, hAfter⟩ := Option.bind_eq_some_iff.mp hDeclare
        exact Option.some.inj hAfter ▸ hSound
  | attributes element definitions =>
      simp only [Doctype.declare?] at hDeclare
      split at hDeclare
      · exact Option.some.inj hDeclare ▸ hSound
      · exact hSound.defineAll (Markup.checkNames_attributes hCheck) hDeclare
  | element name model => exact Option.some.inj hDeclare ▸ hSound
  | format name => exact Option.some.inj hDeclare ▸ hSound
  | instruction target => exact Option.some.inj hDeclare ▸ hSound

theorem IsSound.declareAll {doctype after : Doctype} (hSound : doctype.IsSound)
    {markups : List Markup}
    (hCheck : ∀ markup ∈ markups, ∃ isReading, markup.checkNames isReading = .ok ())
    (hDeclare : markups.foldlM Doctype.declare? doctype = some after) : after.IsSound := by
  induction markups generalizing doctype with
  | nil => exact Option.some.inj hDeclare ▸ hSound
  | cons first rest ih =>
      obtain ⟨middle, hFirst, hRest⟩ := Option.bind_eq_some_iff.mp hDeclare
      obtain ⟨isReading, hNames⟩ := hCheck first List.mem_cons_self
      exact ih (hSound.declare? hNames hFirst)
        (fun markup hMember => hCheck markup (List.mem_cons_of_mem _ hMember)) hRest

/-- Values are read one by one, each under the name that the tag gives it. -/
theorem keys_of_mapM {read? : Word × Literal → Option (String × String)}
    (hKey : ∀ pair value, read? pair = some value → value.1 = pair.1.text)
    {pairs : List (Word × Literal)} {values : List (String × String)}
    (hValues : pairs.mapM read? = some values) :
    values.map Prod.fst = pairs.map fun pair => pair.1.text := by
  induction pairs generalizing values with
  | nil => exact Option.some.inj hValues ▸ rfl
  | cons first rest ih =>
      rw [List.mapM_cons] at hValues
      obtain ⟨value, hFirst, hRest⟩ := Option.bind_eq_some_iff.mp hValues
      obtain ⟨later, hLater, hAll⟩ := Option.bind_eq_some_iff.mp hRest
      obtain rfl := Option.some.inj hAll
      rw [List.map_cons, List.map_cons, ih hLater, hKey first value hFirst]

theorem IsSound.defaults {doctype : Doctype} (hSound : doctype.IsSound) (element : String)
    (values : List (String × String)) :
    HasSoundKeys (doctype.attributes.filterMap fun rule =>
      if rule.element == element && (values.lookup rule.key).isNone then
        rule.default.map fun value => (rule.key, value)
      else none) := by
  constructor
  · refine List.pairwise_filterMap.mpr (hSound.distinct.imp ?_)
    intro a b hDistinct first hFirst second hSecond hSame
    split at hFirst <;> split at hSecond
    · rename_i hA hB
      obtain ⟨_, _, rfl⟩ := Option.map_eq_some_iff.mp hFirst
      obtain ⟨_, _, rfl⟩ := Option.map_eq_some_iff.mp hSecond
      simp only [Bool.and_eq_true, beq_iff_eq] at hA hB
      exact hDistinct ⟨hA.1.trans hB.1.symm, hSame⟩
    · cases hSecond
    · cases hFirst
    · cases hFirst
  · intro pair hPair
    obtain ⟨rule, hRule, hDefault⟩ := List.mem_filterMap.mp hPair
    split at hDefault
    · obtain ⟨_, _, rfl⟩ := Option.map_eq_some_iff.mp hDefault
      exact hSound.named rule hRule
    · cases hDefault

/-- The attributes that a tag gives an element have different names. -/
theorem IsSound.attributes? {doctype : Doctype} (hSound : doctype.IsSound) {tag : Tag}
    (hNamed : ∀ pair ∈ tag.attributes, pair.1.text ≠ namelessPrefix)
    {attributes : List (String × String)}
    (hAttributes : doctype.attributes? tag = some attributes) : HasSoundKeys attributes := by
  obtain ⟨_, hGuard, hRest⟩ := Option.bind_eq_some_iff.mp hAttributes
  obtain ⟨values, hValues, hAll⟩ := Option.bind_eq_some_iff.mp hRest
  obtain rfl := Option.some.inj hAll
  have hKeys : values.map Prod.fst = tag.attributes.map fun pair => pair.1.text := by
    refine keys_of_mapM ?_ hValues
    intro pair value hRead
    obtain ⟨_, _, hValue⟩ := Option.bind_eq_some_iff.mp hRead
    exact Option.some.inj hValue ▸ rfl
  have hDistinct : (values.map Prod.fst).Nodup := by
    rw [hKeys]
    exact (Option.guard_eq_some' _).mp hGuard
  have hDefaults := hSound.defaults tag.name.text values
  constructor
  · refine List.pairwise_append.mpr ⟨List.pairwise_map.mp hDistinct, hDefaults.distinct, ?_⟩
    intro given hGiven default hDefault hSame
    obtain ⟨rule, _, hRule⟩ := List.mem_filterMap.mp hDefault
    split at hRule
    · rename_i hMissing
      obtain ⟨_, _, rfl⟩ := Option.map_eq_some_iff.mp hRule
      simp only [Bool.and_eq_true, Option.isNone_iff_eq_none, List.lookup_eq_none_iff] at hMissing
      exact absurd hSame.symm (by simpa using hMissing.2 given hGiven)
    · cases hRule
  · intro pair hPair
    rcases List.mem_append.mp hPair with hGiven | hDefault
    · have hMember : pair.1 ∈ tag.attributes.map fun pair => pair.1.text :=
        hKeys ▸ List.mem_map_of_mem hGiven
      obtain ⟨written, hWritten, hText⟩ := List.mem_map.mp hMember
      exact hText ▸ hNamed written hWritten
    · exact hDefaults.named pair hDefault

end Doctype

namespace Document

/-- In a document whose names are in order the declared rules for attributes are sound. -/
theorem doctypeOf?_isSound {text : Text} {outline : Outline} {doctype : Doctype}
    (hCheck : outline.opening.forM (Opening.checkNames doctype.standalone) = .ok ())
    (hDoctype : doctypeOf? text outline = some doctype) : doctype.IsSound := by
  simp only [doctypeOf?] at hDoctype
  split at hDoctype
  · obtain rfl := Option.some.inj hDoctype
    exact Doctype.empty_isSound _ false
  · rename_i declaration hDeclaration
    obtain ⟨_, _, hRest⟩ := Option.bind_eq_some_iff.mp hDoctype
    obtain ⟨_, _, hDeclare⟩ := Option.bind_eq_some_iff.mp hRest
    obtain ⟨opening, hOpening, hFound⟩ := List.exists_of_findSome?_eq_some hDeclaration
    cases opening with
    | instruction target => cases hFound
    | declaration found =>
        obtain rfl := Option.some.inj hFound
        obtain ⟨_, _, hMarkups⟩ := bind_eq_ok.mp (ok_of_forM hCheck _ hOpening)
        exact (Doctype.empty_isSound _ _).declareAll (Markup.checkAll_member hMarkups) hDeclare

end Document

end SdkFeed.Xml
