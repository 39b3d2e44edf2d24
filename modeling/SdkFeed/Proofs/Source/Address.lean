import SdkFeed.Proofs.Load.Address
import SdkFeed.Proofs.Text.Trim

/-! The addresses of sources. They are kept without blanks around them and never name a directory;
and an address that names the index file does so as well when it is fetched over an open scheme, so
no load leaves it. -/
namespace SdkFeed

theorem endsIn_iff {s ending : String} : endsIn s ending = true ↔ ending.toList <:+ s.toList :=
  List.isSuffixOf_iff_suffix

/-- An ending without a character cannot begin before its last place in a text. -/
theorem suffix_of_not_mem {α : Type} {mark : α} {ending front back : List α} (hMark : mark ∉ ending)
    (hEnds : ending <:+ front ++ mark :: back) : ending <:+ back := by
  induction front with
  | nil =>
      rcases List.suffix_cons_iff.mp hEnds with rfl | hBack
      · exact absurd List.mem_cons_self hMark
      · exact hBack
  | cons first front ih =>
      rcases List.suffix_cons_iff.mp hEnds with rfl | hRest
      · exact absurd (List.mem_cons_of_mem first (List.mem_append_right front List.mem_cons_self))
          hMark
      · exact ih hRest

namespace Load

theorem openScheme_eq_self {chars : List Char} (hPlain : '/' ∉ chars) : openScheme chars = chars := by
  fun_induction openScheme chars with
  | case1 rest ih => exact absurd (by simp) hPlain
  | case2 c rest hOther ih => rw [ih fun hRest => hPlain (List.mem_cons_of_mem c hRest)]
  | case3 => rfl

/-- A text without a slash that an address ends in cannot begin inside a scheme. -/
theorem openScheme_suffix {ending chars : List Char} (hPlain : '/' ∉ ending)
    (hEnds : ending <:+ chars) : ending <:+ openScheme chars := by
  fun_induction openScheme chars with
  | case1 rest ih =>
      -- Without a slash the ending cannot reach back over the one that closes the scheme.
      have hRest : ending <:+ rest :=
        suffix_of_not_mem hPlain
          (show ending <:+ ['h', 't', 't', 'p', 's', ':', '/'] ++ '/' :: rest from hEnds)
      exact (ih hRest).trans (List.suffix_append _ _)
  | case2 c rest hOther ih =>
      rcases List.suffix_cons_iff.mp hEnds with rfl | hRest
      · have hRest : openScheme rest = rest :=
          openScheme_eq_self fun hIn => hPlain (List.mem_cons_of_mem c hIn)
        exact ⟨[], congrArg (List.cons c) hRest.symm⟩
      · exact (ih hRest).trans (List.suffix_cons c _)
  | case3 => exact hEnds

end Load

namespace Feed

theorem Family.indexFile_plain (kind : Kind) : '/' ∉ kind.family.indexFile.toList := by
  cases kind <;> decide

theorem Family.indexFile_isTrimmed (kind : Kind) :
    Text.IsTrimmed kind.family.indexFile.toList := by
  rw [← Text.trim_eq_self_iff]
  cases kind <;> decide

theorem Family.indexFile_ne_nil (kind : Kind) : kind.family.indexFile.toList ≠ [] := by
  cases kind <;> decide

end Feed

open SdkFeed.Feed (Kind Family)

/-- An address that names the index file still does so when it is fetched. -/
theorem Load.fetchUrl_endsIn {kind : Kind} {forceOpen : Bool} {url : String}
    (hEnds : endsIn url kind.family.indexFile = true) :
    endsIn (fetchUrl forceOpen url) kind.family.indexFile = true := by
  cases forceOpen with
  | false => exact hEnds
  | true =>
      rw [endsIn_iff] at hEnds ⊢
      rw [fetchUrl, if_pos rfl, String.toList_ofList]
      exact openScheme_suffix (Family.indexFile_plain kind) hEnds

/-- The form in which sources keep their addresses. -/
structure Source.IsKept (url : String) : Prop where
  trimmed : Text.trim url = url
  file : endsIn url "/" = false

/-- An address with the index file put behind it is one that sources keep. -/
theorem Source.IsKept.of_indexFile {kind : Kind} {url : String} {front : List Char}
    (hUrl : url.toList = front ++ kind.family.indexFile.toList) (hFront : Text.IsTrimmed front) :
    IsKept url := by
  constructor
  · rw [Text.trim_eq_self_iff, hUrl]
    exact hFront.append (Family.indexFile_isTrimmed kind) (Family.indexFile_ne_nil kind)
  · rw [Bool.eq_false_iff, Ne, endsIn_iff, hUrl]
    intro hEnds
    have hInside : ['/'] <:+ kind.family.indexFile.toList :=
      List.suffix_of_suffix_length_le hEnds (List.suffix_append _ _)
        (List.length_pos_iff.mpr (Family.indexFile_ne_nil kind))
    exact Family.indexFile_plain kind (hInside.subset List.mem_cons_self)

/-- The address of a new source is one that sources keep. -/
theorem Source.normalUrl_isKept (kind : Kind) (url : String) : IsKept (normalUrl kind url) := by
  have hTrimmed : Text.IsTrimmed (Text.trim url).toList := by
    rw [Text.trim, String.toList_ofList]
    exact Text.isTrimmed_trimChars _
  rw [normalUrl]
  split
  · exact .of_indexFile String.toList_append hTrimmed
  · rename_i hFile
    exact ⟨Text.trim_eq_self_iff.mpr hTrimmed, by simpa using hFile⟩

/-- The address that a load goes over to is one that sources keep. -/
theorem Source.IsKept.alternateUrl {kind : Kind} {url : String} (hKept : IsKept url)
    (hEnds : endsIn url kind.family.indexFile = false) :
    IsKept (alternateUrl url kind.family.indexFile) := by
  have hUrl : (url ++ "/" ++ kind.family.indexFile).toList =
      (url.toList ++ ['/']) ++ kind.family.indexFile.toList := by
    rw [String.toList_append, String.toList_append]
    rfl
  rw [SdkFeed.alternateUrl, hEnds, hKept.file, if_neg nofun, if_neg nofun]
  refine .of_indexFile hUrl ((Text.trim_eq_self_iff.mp hKept.trimmed).append ⟨?_, ?_⟩ nofun)
  · intro c hHead
    obtain rfl := Option.some.inj hHead
    decide
  · intro c hLast
    obtain rfl := Option.some.inj hLast
    decide

theorem alternateUrl_endsIn (url file : String) : endsIn (alternateUrl url file) file = true := by
  rw [alternateUrl]
  split
  · assumption
  · split
    · rw [endsIn_iff, String.toList_append]
      exact List.suffix_append _ _
    · rw [endsIn_iff, String.toList_append]
      exact List.suffix_append _ _

end SdkFeed
