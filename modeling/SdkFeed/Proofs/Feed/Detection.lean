import Mathlib.Data.List.Basic
import SdkFeed.Package.Salvage
import SdkFeed.Proofs.Text.Integer
import SdkFeed.Proofs.Xml.Binding

/-! The version of a document and the namespace of its root element tell the same. A version is
written in one way only, so the namespace can be told from the version, and what is found by looking
at the names as they are written holds for the tree with expanded names. -/
namespace SdkFeed.Text

/-- Digits behind a number that is not zero continue the way it is written. -/
theorem toDigits_foldl {digits : List Char} (hDigits : ∀ c ∈ digits, c.isDigit = true) {value : Nat}
    (hValue : 0 < value) :
    Nat.toDigits 10 ((digits.map fun c => c.toNat - '0'.toNat).foldl
      (fun value digit => 10 * value + digit) value) = Nat.toDigits 10 value ++ digits := by
  induction digits generalizing value with
  | nil => simp
  | cons c rest ih =>
      obtain ⟨hSmall, hChar⟩ := digitChar_value (hDigits c List.mem_cons_self)
      have hRest : ∀ c ∈ rest, c.isDigit = true :=
        fun c hMember => hDigits c (List.mem_cons_of_mem _ hMember)
      rw [List.map_cons, List.foldl_cons, ih hRest (by omega),
        ← Nat.toDigits_append_toDigits (by decide) hValue hSmall, Nat.toDigits_of_lt_base hSmall,
        hChar, List.append_assoc, List.singleton_append]

/-- Digits that do not begin with a zero are the digits of the number that they stand for. -/
theorem toDigits_ofDigits {first : Char} {rest : List Char} (hFirst : first ≠ '0')
    (hDigits : ∀ c ∈ first :: rest, c.isDigit = true) :
    Nat.toDigits 10 (ofDigits ((first :: rest).map fun c => c.toNat - '0'.toNat)) =
      first :: rest := by
  obtain ⟨hSmall, hChar⟩ := digitChar_value (hDigits first List.mem_cons_self)
  have hPositive : 0 < first.toNat - '0'.toNat := by
    rcases Nat.eq_zero_or_pos (first.toNat - '0'.toNat) with hZero | hPositive
    · rw [hZero] at hChar
      exact absurd hChar.symm hFirst
    · exact hPositive
  rw [ofDigits, ofDigitsTo, List.map_cons, List.foldl_cons, Nat.mul_zero, Nat.zero_add,
    toDigits_foldl (fun c hMember => hDigits c (List.mem_cons_of_mem _ hMember)) hPositive,
    Nat.toDigits_of_lt_base hSmall, hChar, List.singleton_append]

end SdkFeed.Text

namespace SdkFeed.Feed

open SdkFeed.Xml

/-- A namespace with a version is the namespace of the positive number that its digits stand for. -/
theorem Family.space_of_versionDigits? {family : Family} {space : String} {digits : List Char}
    (hDigits : family.versionDigits? space = some digits) :
    0 < Text.ofDigits (digits.map fun c => c.toNat - '0'.toNat) ∧
      space = family.space (Text.ofDigits (digits.map fun c => c.toNat - '0'.toNat) : Nat) := by
  rw [versionDigits?] at hDigits
  split at hDigits
  · rename_i first rest hPrefix
    split at hDigits
    · rename_i hGood
      obtain rfl := Option.some.inj hDigits
      simp only [Bool.and_eq_true, bne_iff_ne, List.all_eq_true] at hGood
      have hWritten := Text.toDigits_ofDigits hGood.1 hGood.2
      refine ⟨?_, ?_⟩
      · by_contra hZero
        rw [Nat.eq_zero_of_not_pos hZero] at hWritten
        exact hGood.1 (List.cons.inj hWritten).1.symm
      · rw [← String.toList_inj, ← List.append_eq_of_isPrefixOf?_eq_some hPrefix, Family.space,
          String.toList_append]
        congr 1
        change _ = (Nat.repr _).toList
        rw [Nat.toList_repr, hWritten]
    · cases hDigits
  · cases hDigits

/-- A namespace with a version is the namespace of this version. -/
theorem Family.versionDigits?_space {family : Family} {space : String} {digits : List Char}
    {version : Nat} (hDigits : family.versionDigits? space = some digits)
    (hVersion : Text.natural? digits = some version) : space = family.space version := by
  rw [Text.natural?] at hVersion
  split at hVersion
  · cases hVersion
  · obtain rfl := Option.some.inj hVersion
    exact (space_of_versionDigits? hDigits).2

/-- A root element with a version has the name and declares the namespace that go with it. -/
theorem versionOfRoot_declares {kind : Kind} {root : RawElement} {version : Nat}
    (hVersion : versionOfRoot kind root = version) (hSome : version ≠ 0) :
    (splitLabel root.name).2 = kind.family.root ∧
      root.attribute? (declarationOf (splitLabel root.name).1) = some (kind.family.space version) := by
  simp only [versionOfRoot] at hVersion
  split at hVersion
  · exact absurd hVersion.symm hSome
  · rename_i hName
    have hRoot : (splitLabel root.name).2 = kind.family.root := by simpa using hName
    refine ⟨hRoot, ?_⟩
    split at hVersion
    · exact absurd hVersion.symm hSome
    · rename_i space hSpace
      cases hDigits : kind.family.versionDigits? space with
      | none => exact absurd (by rw [← hVersion, hDigits]; rfl) hSome
      | some digits =>
          cases hNumber : Text.natural? digits with
          | none => exact absurd (by rw [← hVersion, hDigits, Option.bind_some, hNumber]; rfl) hSome
          | some number =>
              rw [hDigits, Option.bind_some, hNumber, Option.getD_some] at hVersion
              subst hVersion
              rw [hSpace, Family.versionDigits?_space hDigits hNumber]

/-- A version other than zero is told of documents that are well formed. -/
theorem detectVersion_document {kind : Kind} {bytes : List UInt8} {version : Nat}
    (hVersion : detectVersion kind bytes = .ok version) (hSome : version ≠ 0) :
    ∃ document, Document.ofBytes bytes = .ok document ∧
      versionOfRoot kind document.root = version := by
  rw [detectVersion] at hVersion
  split at hVersion
  · rename_i document hDocument
    exact ⟨document, hDocument, Except.ok.inj hVersion⟩
  · cases hVersion
  · exact absurd (Except.ok.inj hVersion).symm hSome

/-- The version of a document cannot be told just where it names an unknown encoding. -/
theorem detectVersion_eq_error {kind : Kind} {bytes : List UInt8} {error : ReadError} :
    detectVersion kind bytes = .error error ↔
      ∃ name, error = .encoding (.unknown name) ∧
        Xml.Text.ofBytes bytes = .error (.encoding (.unknown name)) := by
  have hDocument (name : String) : Document.ofBytes bytes = .error (.encoding (.unknown name)) ↔
      Xml.Text.ofBytes bytes = .error (.encoding (.unknown name)) := by
    rw [Document.ofBytes, bind_eq_error]
    constructor
    · rintro (hText | ⟨text, _, hRest⟩)
      · exact hText
      · cases hFound : Document.ofText? text <;> rw [hFound] at hRest <;> cases hRest
    · exact Or.inl
  rw [detectVersion]
  constructor
  · intro hError
    split at hError
    · cases hError
    · rename_i name hUnknown
      exact ⟨name, (Except.error.inj hError).symm, (hDocument name).mp hUnknown⟩
    · cases hError
  · rintro ⟨name, rfl, hText⟩
    rw [(hDocument name).mpr hText]

/-- The tree of a document with a version has the root element of this version. -/
theorem read_root_of_version {kind : Kind} {bytes : List UInt8} {version : Nat} {root : Tree}
    (hVersion : detectVersion kind bytes = .ok version) (hSome : version ≠ 0)
    (hRead : Xml.read bytes = .ok root) :
    root.name = ⟨kind.family.space version, kind.family.root⟩ := by
  obtain ⟨document, hDocument, hRoot⟩ := detectVersion_document hVersion hSome
  obtain ⟨hName, hSpace⟩ := versionOfRoot_declares hRoot hSome
  rw [read_root_name hDocument hRead hSpace, hName]

/-- A document with a version is in an encoding that can be read. -/
theorem read_encoding_of_version {kind : Kind} {bytes : List UInt8} {version : Nat}
    (hVersion : detectVersion kind bytes = .ok version) (hSome : version ≠ 0)
    (fault : EncodingFault) : Xml.read bytes ≠ .error (.encoding fault) := by
  obtain ⟨document, hDocument, _⟩ := detectVersion_document hVersion hSome
  obtain ⟨text, hText, hFound⟩ := Document.ofBytes_eq_ok hDocument
  intro hRead
  rw [Xml.read, bind_eq_error] at hRead
  rcases hRead with hNone | ⟨same, hSame, hRest⟩
  · rw [hText] at hNone
    cases hNone
  · obtain rfl : text = same := Except.ok.inj (hText.symm.trans hSame)
    simp only [hFound] at hRest
    rcases bind_eq_error.mp hRest with hNames | ⟨_, _, hResolve⟩
    · obtain ⟨_, _, hBlame⟩ := mapError_eq_error.mp hNames
      cases hBlame
    · obtain ⟨_, _, hBlame⟩ := mapError_eq_error.mp hResolve
      cases hBlame

/-- Salvage from a document with a version comes to an answer. -/
theorem salvage_of_version {kind : Kind} {bytes : List UInt8} {version : Nat}
    (hVersion : detectVersion kind bytes = .ok version) (hSome : version ≠ 0) :
    ∃ answer, Package.Salvage.ofBytes kind bytes = .ok answer := by
  rw [Package.Salvage.ofBytes]
  split
  · split
    · exact ⟨_, rfl⟩
    · rename_i fault hRead
      exact absurd hRead (read_encoding_of_version hVersion hSome fault)
    · exact ⟨_, rfl⟩
  · exact ⟨_, rfl⟩

end SdkFeed.Feed
