import BroadcastGuide.Proofs.Descriptor.Interleaving

/-! What of several content codes and several components a programme takes up: each code once, and
of each kind of stream the component that comes first. -/

namespace BroadcastGuide

open Text (CharacterTable)

namespace Projection

/-! ### Categories -/

def genre? (code : Nat) : Option String :=
  (Labels.label? Labels.contentCategories code).filter (· ≠ "")

theorem eraseDups_unseen_cons {seen : List Nat} {code : Nat} (rest : List Nat)
    (hnew : ¬(code = 0 ∨ code ∈ seen)) :
    ((code :: rest).filter fun c => c ≠ 0 ∧ c ∉ seen).eraseDups =
      code :: (rest.filter fun c => c ≠ 0 ∧ c ∉ code :: seen).eraseDups := by
  rw [List.filter_cons_of_pos (by simpa using hnew), List.eraseDups_cons, List.filter_filter]
  congr 3
  funext c
  rw [Bool.eq_iff_iff]
  simp only [Bool.and_eq_true, Bool.not_eq_true', beq_eq_false_iff_ne, decide_eq_true_eq,
    List.mem_cons, not_or, ne_eq]
  exact and_left_comm

/-- The categories are the labels of the codes that are not seen before, without repetition. -/
theorem categories_eq (seen codes : List Nat) :
    categories seen codes =
      ((codes.filter fun c => c ≠ 0 ∧ c ∉ seen).eraseDups).filterMap genre? := by
  fun_induction categories seen codes with
  | case1 => rfl
  | case2 seen code rest hmet ih =>
    rw [ih, List.filter_cons_of_neg (by grind)]
  | case3 seen code rest hnew hlabel ih =>
    have hgenre : genre? code = none := by
      rw [genre?, hlabel]
      rfl
    rw [ih, eraseDups_unseen_cons rest hnew, List.filterMap_cons_none hgenre]
  | case4 seen code rest hnew label hlabel hblank ih =>
    have hgenre : genre? code = none := by
      rw [genre?, hlabel, String.isEmpty_iff.mp hblank]
      rfl
    rw [ih, eraseDups_unseen_cons rest hnew, List.filterMap_cons_none hgenre]
  | case5 seen code rest hnew label hlabel hfilled ih =>
    have hgenre : genre? code = some label := by
      rw [genre?, hlabel]
      exact Option.filter_some_pos (by simpa [String.isEmpty_iff] using hfilled)
    rw [ih, eraseDups_unseen_cons rest hnew, List.filterMap_cons_some hgenre]

/-! ### First components -/

/-- A component ahead of which there is none of its kind of stream. -/
structure IsFirst (content : Nat) (ds : List Descriptor) (c : Component) : Prop where
  streamContent_eq : c.streamContent = content
  first : ∃ before after, ds = before ++ .component c :: after ∧
    ∀ other, .component other ∈ before → other.streamContent ≠ content

theorem componentOf?_eq_none_iff {content : Nat} {ds : List Descriptor} :
    (∀ d ∈ ds, d.componentOf? content = none) ↔
      ∀ c, .component c ∈ ds → c.streamContent ≠ content := by
  constructor
  · intro h c hc heq
    have hnone := h _ hc
    rw [Descriptor.componentOf?, if_pos heq] at hnone
    cases hnone
  · intro h d hd
    cases d with
    | component c => exact if_neg (h c hd)
    | _ => rfl

theorem head?_componentsOf_eq_none_iff {content : Nat} {ds : List Descriptor} :
    (componentsOf content ds).head? = none ↔
      ∀ c, .component c ∈ ds → c.streamContent ≠ content := by
  rw [componentsOf_eq, List.head?_filterMap, List.findSome?_eq_none_iff, componentOf?_eq_none_iff]

theorem IsFirst.head?_componentsOf {content : Nat} {ds : List Descriptor} {c : Component}
    (h : IsFirst content ds c) : (componentsOf content ds).head? = some c := by
  obtain ⟨before, after, hds, hbefore⟩ := h.first
  have hc : (Descriptor.component c).componentOf? content = some c := if_pos h.streamContent_eq
  rw [componentsOf_eq, List.head?_filterMap]
  exact List.findSome?_eq_some_iff.mpr
    ⟨before, .component c, after, hds, hc, componentOf?_eq_none_iff.mpr hbefore⟩

/-- A programme that says nothing of these yet has for categories the labels of the content codes,
of all descriptors in order and each code where it comes first, without code zero and those that
have no label or a blank one. Its language and its sound are of one component, the first of sound,
and its picture is of the first of pictures, whatever comes after; it has none without such a
component. -/
theorem project_selection (table : CharacterTable) (ds : List Descriptor) {p : Programme}
    (hcategories : p.categories = []) (hlanguage : p.language = none)
    (haspect : p.videoAspect = none) (hmode : p.audioMode = none) :
    let q := (project table ds p).value
    q.categories = (((contentCodes ds).filter (· ≠ 0)).eraseDups).filterMap genre? ∧
      (∀ c, IsFirst audio ds c → q.language = some c.language ∧
        q.audioMode = some (Labels.labelOrNumber Labels.audioModes c.componentType)) ∧
      (∀ c, IsFirst video ds c →
        q.videoAspect = some (Labels.labelOrNumber Labels.aspectRatios c.aspectCode)) ∧
      ((∀ c, .component c ∈ ds → c.streamContent ≠ audio) →
        q.language = none ∧ q.audioMode = none) ∧
      ((∀ c, .component c ∈ ds → c.streamContent ≠ video) → q.videoAspect = none) := by
  intro q
  have hcat : q.categories = categories [] (contentCodes ds) := by
    change p.categories ++ _ = _
    rw [hcategories, List.nil_append]
  have hlang : q.language = (componentsOf audio ds).head?.map (·.language) := by
    change p.language.or _ = _
    rw [hlanguage, Option.none_or]
  have hsound : q.audioMode = (componentsOf audio ds).head?.map fun c =>
      Labels.labelOrNumber Labels.audioModes c.componentType := by
    change p.audioMode.or _ = _
    rw [hmode, Option.none_or]
  have hpicture : q.videoAspect = (componentsOf video ds).head?.map fun c =>
      Labels.labelOrNumber Labels.aspectRatios c.aspectCode := by
    change p.videoAspect.or _ = _
    rw [haspect, Option.none_or]
  refine ⟨?_, fun c hc => ?_, fun c hc => ?_, fun habsent => ?_, fun habsent => ?_⟩
  · simpa using hcat.trans (categories_eq [] (contentCodes ds))
  · rw [hlang, hsound, hc.head?_componentsOf]
    exact ⟨rfl, rfl⟩
  · rw [hpicture, hc.head?_componentsOf]
    rfl
  · rw [hlang, hsound, head?_componentsOf_eq_none_iff.mpr habsent]
    exact ⟨rfl, rfl⟩
  · rw [hpicture, head?_componentsOf_eq_none_iff.mpr habsent]
    rfl

def selection : List Descriptor :=
  [.content [⟨0x23, 0⟩, ⟨0, 0⟩, ⟨0xB0, 0⟩], .component ⟨teletext, 3, 0, "fr", []⟩,
    .component ⟨audio, 0x47, 1, "de", []⟩, .content [⟨0x10, 1⟩, ⟨0x23, 2⟩, ⟨0x19, 0⟩, ⟨0x10, 0⟩],
    .component ⟨audio, 3, 2, "en", []⟩, .component ⟨video, 3, 3, "en", []⟩,
    .component ⟨audio, 9, 4, "en", []⟩]

theorem project_selection_first :
    let p := Programme.blank 1 2 0 60
    p.categories = [] ∧ p.language = none ∧ p.videoAspect = none ∧ p.audioMode = none ∧
      let q := (project .latin selection p).value
      q.categories = ["documentary", "Movie"] ∧ q.language = some "de" ∧
        q.audioMode = some "mono" ∧ q.videoAspect = some "16:9" := by
  intro p
  obtain ⟨hcategories, hsound, hpicture, -, -⟩ :=
    project_selection .latin selection (p := p) rfl rfl rfl rfl
  have haudio : IsFirst audio selection ⟨audio, 0x47, 1, "de", []⟩ :=
    ⟨rfl, selection.take 2, selection.drop 3, rfl, by simp [selection, audio, teletext]⟩
  have hvideo : IsFirst video selection ⟨video, 3, 3, "en", []⟩ :=
    ⟨rfl, selection.take 5, selection.drop 6, rfl, by
      simp [selection, audio, teletext, video]⟩
  refine ⟨rfl, rfl, rfl, rfl, ?_, ?_, ?_, ?_⟩
  · exact hcategories.trans (by decide +kernel)
  · exact (hsound _ haudio).1
  · exact (hsound _ haudio).2.trans (by decide +kernel)
  · exact (hpicture _ hvideo).trans (by decide +kernel)

end Projection

end BroadcastGuide
