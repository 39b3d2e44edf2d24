import SdkFeed.Proofs.Source.Address

/-! Opening the schemes of an address and putting the index file behind it, in either order. A scheme
closes with a slash and the name of an index file has none, so no scheme reaches over the seam
between the two; and what an address ends in, up to its last slash, is the same before and after. -/
namespace SdkFeed.Load

/-- The secure scheme as addresses spell it. -/
def secureScheme : List Char :=
  ['h', 't', 't', 'p', 's', ':', '/', '/']

/-- A secure scheme lies across the seam between two texts. -/
def Straddles (front back : List Char) : Prop :=
  ∃ head tail, head ≠ [] ∧ tail ≠ [] ∧ head ++ tail = secureScheme ∧ head <:+ front ∧ tail <+: back

theorem openScheme_secure (rest : List Char) :
    openScheme (secureScheme ++ rest) = "http://".toList ++ openScheme rest :=
  rfl

theorem openScheme_cons {c : Char} {rest : List Char} (hOther : ¬secureScheme <+: c :: rest) :
    openScheme (c :: rest) = c :: openScheme rest := by
  generalize hText : c :: rest = text
  fun_cases openScheme text with
  | case1 more =>
      rw [hText] at hOther
      exact absurd ⟨more, rfl⟩ hOther
  | case2 =>
      obtain ⟨rfl, rfl⟩ := List.cons.inj hText
      rfl
  | case3 => cases hText

theorem mem_tail_of_secureScheme {head tail : List Char} (hScheme : head ++ tail = secureScheme)
    (hTail : tail ≠ []) : '/' ∈ tail := by
  have hLast : (head ++ tail).getLast? = some '/' := by rw [hScheme]; rfl
  rw [List.getLast?_append_of_ne_nil head hTail] at hLast
  exact List.mem_of_getLast? hLast

theorem not_straddles {front back : List Char} (hBack : '/' ∉ back) : ¬Straddles front back := by
  rintro ⟨head, tail, _, hTail, hScheme, _, hStart⟩
  exact hBack (hStart.subset (mem_tail_of_secureScheme hScheme hTail))

theorem not_straddles_slash {front back : List Char} (hFront : front.getLast? ≠ some '/')
    (hBack : '/' ∉ back) : ¬Straddles front ('/' :: back) := by
  rintro ⟨head, tail, hHead, hTail, hScheme, hEnd, hStart⟩
  obtain ⟨c, more, rfl⟩ := List.exists_cons_of_ne_nil hTail
  obtain ⟨rfl, hMore⟩ := List.cons_prefix_cons.mp hStart
  by_cases hNone : more = []
  · -- Only the last slash is behind the seam, so the other one ends the first text.
    subst hNone
    have hSpelt : head ++ ['/'] = ['h', 't', 't', 'p', 's', ':', '/'] ++ ['/'] := hScheme
    rw [List.append_cancel_right hSpelt] at hEnd
    obtain ⟨rest, rfl⟩ := hEnd
    exact hFront (List.getLast?_append_of_ne_nil rest (List.cons_ne_nil _ _))
  · have hLonger : (head ++ ['/']) ++ more = secureScheme := by
      rw [← hScheme, List.append_assoc]
      rfl
    exact hBack (hMore.subset (mem_tail_of_secureScheme hLonger hNone))

/-- The schemes of two texts are opened one text at a time, unless one lies across the seam. -/
theorem openScheme_append {front back : List Char} (hSeam : ¬Straddles front back) :
    openScheme (front ++ back) = openScheme front ++ openScheme back := by
  fun_induction openScheme front with
  | case1 rest ih =>
      have hRest : ¬Straddles rest back := by
        rintro ⟨head, tail, hHead, hTail, hScheme, hEnd, hStart⟩
        exact hSeam ⟨head, tail, hHead, hTail, hScheme,
          hEnd.trans (List.suffix_append secureScheme rest), hStart⟩
      calc openScheme (secureScheme ++ rest ++ back)
          = "http://".toList ++ openScheme (rest ++ back) := openScheme_secure (rest ++ back)
        _ = "http://".toList ++ (openScheme rest ++ openScheme back) := by rw [ih hRest]
        _ = "http://".toList ++ openScheme rest ++ openScheme back := (List.append_assoc ..).symm
  | case2 c rest hOther ih =>
      have hRest : ¬Straddles rest back := by
        rintro ⟨head, tail, hHead, hTail, hScheme, hEnd, hStart⟩
        exact hSeam ⟨head, tail, hHead, hTail, hScheme, hEnd.trans (List.suffix_cons c rest),
          hStart⟩
      have hPlain : ¬secureScheme <+: c :: (rest ++ back) := by
        intro hScheme
        rcases List.prefix_or_prefix_of_prefix hScheme (List.prefix_append (c :: rest) back) with
          ⟨more, hFront⟩ | ⟨tail, hTail⟩
        · obtain ⟨rfl, rfl⟩ := List.cons.inj hFront
          exact hOther more rfl rfl
        · have hBack : tail <+: back := by
            rw [← hTail, ← List.cons_append, List.prefix_append_right_inj] at hScheme
            exact hScheme
          refine hSeam ⟨c :: rest, tail, List.cons_ne_nil c rest, ?_, hTail, List.suffix_rfl, hBack⟩
          rintro rfl
          obtain ⟨rfl, rfl⟩ := List.cons.inj ((List.append_nil _).symm.trans hTail)
          exact hOther [] rfl rfl
      rw [List.cons_append, openScheme_cons hPlain, ih hRest, List.cons_append]
  | case3 => rfl

theorem openScheme_getLast? (chars : List Char) :
    (openScheme chars).getLast? = chars.getLast? := by
  fun_induction openScheme chars with
  | case1 rest ih =>
      calc ("http://".toList ++ openScheme rest).getLast?
          = rest.getLast?.or (some '/') := by rw [List.getLast?_append, ih]; rfl
        _ = (secureScheme ++ rest).getLast? := by rw [List.getLast?_append]; rfl
  | case2 c rest hOther ih => rw [List.getLast?_cons, List.getLast?_cons, ih]
  | case3 => rfl

theorem openScheme_eq_self_of_plain {chars : List Char} (hPlain : '/' ∉ openScheme chars) :
    openScheme chars = chars := by
  fun_induction openScheme chars with
  | case1 rest ih => exact absurd (List.mem_append_left _ (by decide)) hPlain
  | case2 c rest hOther ih => rw [ih fun hRest => hPlain (List.mem_cons_of_mem c hRest)]
  | case3 => rfl

/-- A text without a slash that an address with its schemes opened ends in was its ending before. -/
theorem suffix_of_openScheme {ending chars : List Char} (hPlain : '/' ∉ ending)
    (hEnds : ending <:+ openScheme chars) : ending <:+ chars := by
  fun_induction openScheme chars with
  | case1 rest ih =>
      have hRest : ending <:+ openScheme rest :=
        suffix_of_not_mem hPlain
          (show ending <:+ ['h', 't', 't', 'p', ':', '/'] ++ '/' :: openScheme rest from hEnds)
      exact (ih hRest).trans (List.suffix_append secureScheme rest)
  | case2 c rest hOther ih =>
      rcases List.suffix_cons_iff.mp hEnds with rfl | hRest
      · simp [openScheme_eq_self_of_plain fun hIn => hPlain (List.mem_cons_of_mem c hIn)]
      · exact (ih hRest).trans (List.suffix_cons c rest)
  | case3 => exact hEnds

end SdkFeed.Load

namespace SdkFeed

open SdkFeed.Feed (Kind Family)

theorem endsIn_slash_iff {url : String} : endsIn url "/" = true ↔ url.toList.getLast? = some '/' := by
  rw [endsIn_iff, List.getLast?_eq_some_iff]
  exact ⟨fun ⟨front, hUrl⟩ => ⟨front, hUrl.symm⟩, fun ⟨front, hUrl⟩ => ⟨front, hUrl.symm⟩⟩

/-- The index file below an address is fetched from below the address that is fetched. -/
theorem Load.fetchUrl_alternateUrl (kind : Kind) (forceOpen : Bool) (url : String) :
    fetchUrl forceOpen (alternateUrl url kind.family.indexFile) =
      alternateUrl (fetchUrl forceOpen url) kind.family.indexFile := by
  have hPlain := Family.indexFile_plain kind
  generalize kind.family.indexFile = file at hPlain ⊢
  cases forceOpen with
  | false => rfl
  | true =>
      have hOpened : (fetchUrl true url).toList = openScheme url.toList := by
        rw [fetchUrl, if_pos rfl, String.toList_ofList]
      have hFile : endsIn (fetchUrl true url) file = endsIn url file := by
        rw [Bool.eq_iff_iff, endsIn_iff, endsIn_iff, hOpened]
        exact ⟨suffix_of_openScheme hPlain, openScheme_suffix hPlain⟩
      have hSlash : endsIn (fetchUrl true url) "/" = endsIn url "/" := by
        rw [Bool.eq_iff_iff, endsIn_slash_iff, endsIn_slash_iff, hOpened, openScheme_getLast?]
      rw [alternateUrl, alternateUrl, hFile, hSlash]
      split
      · rfl
      · split
        · rw [← String.toList_inj, String.toList_append, hOpened, fetchUrl, if_pos rfl,
            String.toList_ofList, String.toList_append, openScheme_append (not_straddles hPlain),
            openScheme_eq_self hPlain]
        · rename_i hLast
          rw [endsIn_slash_iff] at hLast
          have hBelow : (url ++ "/" ++ file).toList = url.toList ++ '/' :: file.toList := by
            rw [String.toList_append, String.toList_append, List.append_assoc]
            rfl
          rw [← String.toList_inj, String.toList_append, String.toList_append, hOpened, fetchUrl,
            if_pos rfl, String.toList_ofList, hBelow,
            openScheme_append (not_straddles_slash hLast hPlain)]
          have hOther : ¬secureScheme <+: '/' :: file.toList := by
            intro hScheme
            exact absurd (List.cons_prefix_cons.mp hScheme).1 (by decide)
          rw [openScheme_cons hOther, openScheme_eq_self hPlain, List.append_assoc]
          rfl

end SdkFeed
