import SchemaBinding.Proofs.Emission.Beside
import SchemaBinding.Proofs.Emission.Confined
import SchemaBinding.Proofs.Loading.Beside
import SchemaBinding.Proofs.Loading.Order

namespace SchemaBinding

structure Limits.Within (limits wider : Limits) : Prop where
  depth : limits.depth ≤ wider.depth
  size : limits.size ≤ wider.size
  documents : limits.documents ≤ wider.documents

namespace Xml

mutual

theorem Element.checkDepth_of_le {limits wider : Limits} (h : limits.depth ≤ wider.depth)
    {depth : Nat} : ∀ element : Element, element.checkDepth limits depth = .ok () →
      element.checkDepth wider depth = .ok ()
  | ⟨name, attributes, text, bindings, start, stop, children⟩ => by
      intro hfits
      rw [checkDepth, bind_eq_ok_iff] at hfits ⊢
      obtain ⟨_, hdepth, hchildren⟩ := hfits
      refine ⟨(), ?_, checkDepths_of_le h children hchildren⟩
      rw [Limits.checkDepth] at hdepth ⊢
      split at hdepth
      case isTrue hle => exact if_pos (Nat.le_trans hle h)
      case isFalse => cases hdepth

theorem Element.checkDepths_of_le {limits wider : Limits} (h : limits.depth ≤ wider.depth)
    {depth : Nat} : ∀ elements : List Element, checkDepths limits depth elements = .ok () →
      checkDepths wider depth elements = .ok ()
  | [], _ => by rw [checkDepths]
  | element :: rest, hfits => by
      rw [checkDepths, bind_eq_ok_iff] at hfits ⊢
      obtain ⟨_, hfirst, hrest⟩ := hfits
      exact ⟨(), checkDepth_of_le h element hfirst, checkDepths_of_le h rest hrest⟩

end

theorem Document.parse_of_le {text : String} {limits wider : Limits} {document : Document}
    (h : limits.depth ≤ wider.depth) (hparse : parse text limits = .ok document) :
    parse text wider = .ok document := by
  obtain ⟨hsource, hroot, hdepth⟩ := parse_eq_ok_iff.mp hparse
  exact parse_eq_ok_iff.mpr ⟨hsource, hroot, document.root.checkDepth_of_le h hdepth⟩

end Xml

namespace Limits.Within

variable {limits wider : Limits} (h : limits.Within wider)

include h

theorem fetch_eq_ok {tree : FileTree} {permissive permissive' : Bool} {location : Location}
    {document : Xml.Document}
    (hfetch : Setting.fetch ⟨tree, limits, permissive⟩ location = .ok document) :
    Setting.fetch ⟨tree, wider, permissive'⟩ location = .ok document := by
  obtain ⟨hfile, text, hread, hsize, hparse⟩ := Setting.fetch_eq_ok_iff.mp hfetch
  have hwider : text.utf8ByteSize ≤ wider.size := Nat.le_trans hsize h.size
  exact Setting.fetch_eq_ok_iff.mpr
    ⟨hfile, text, hread, hwider, Xml.Document.parse_of_le h.depth hparse⟩

theorem beside (tree : FileTree) {permissive permissive' : Bool}
    (hpermissive : permissive = true → permissive' = true) :
    Setting.Beside { eased := True } ⟨tree, limits, permissive⟩ ⟨tree, wider, permissive'⟩ where
  fetch location := by
    cases hfetch : Setting.fetch ⟨tree, limits, permissive⟩ location with
    | error error => exact .eased trivial
    | ok document =>
        rw [h.fetch_eq_ok hfetch]
        exact .ok (.refl _ document.root)
  permissive := by
    cases permissive with
    | false => exact .inr ⟨trivial, rfl⟩
    | true => exact .inl (hpermissive rfl).symm
  documents := .inr ⟨trivial, h.documents⟩

end Limits.Within

theorem Sink.alike_self {σ : Type} (sink : Sink σ) : sink.Alike True Eq sink := by
  rintro package name file other halike state _ rfl
  rw [halike.text trivial]
  cases sink.write package name other.text state with
  | ok value after => exact .ok rfl rfl
  | error error after => exact .error rfl

namespace Generation

theorem run_of_load {tree : FileTree} {options : Options} {set : SchemaSet}
    (h : load tree options = .ok set) {σ : Type} (sink : Sink σ) :
    run tree options sink = write set options sink := by
  rw [run, h]

section

variable {tree : FileTree} {options : Options} {limits : Limits} {permissive : Bool}
  (hlimits : options.limits.Within limits)
  (hpermissive : options.permissive = true → permissive = true)

include hlimits hpermissive

theorem exists_load_relaxed {set : SchemaSet} (h : load tree options = .ok set) :
    ∃ set', load tree { options with limits := limits, permissive := permissive } = .ok set' ∧
      set.Beside { eased := True } set' := by
  simp only [load, bind_eq_ok_iff] at h ⊢
  obtain ⟨_, hvalid, roots, hroots, hload⟩ := h
  have hends := SchemaSet.ends_load (hlimits.beside tree hpermissive) roots
  rw [hload] at hends
  obtain ⟨set', hload', hbeside⟩ := hends.exists_ok
  exact ⟨set', ⟨(), hvalid, roots, hroots, hload'⟩, hbeside⟩

/-- A run that succeeds comes to the same under wider limits and when it is permissive. -/
theorem run_relaxed {σ : Type} (sink : Sink σ) {before after : σ} {report : Report}
    (h : run tree options sink before = .ok report after) :
    run tree { options with limits := limits, permissive := permissive } sink before =
      .ok report after := by
  cases hload : load tree options with
  | error error =>
      rw [run, hload] at h
      cases h
  | ok set =>
      obtain ⟨set', hload', hbeside⟩ := exists_load_relaxed hlimits hpermissive hload
      have hagree : options.Agree { options with limits := limits, permissive := permissive } :=
        ⟨rfl, rfl, rfl⟩
      have hwrite : Runs Eq Eq _ _ :=
        hbeside.runs_write hagree sink.alike_self (rfl : before = before)
      rw [run_of_load hload] at h
      rw [run_of_load hload']
      rw [h] at hwrite
      obtain ⟨_, _, heq, rfl, rfl⟩ := hwrite.exists_ok
      exact heq

end

theorem run_relaxed_odd : ∃ report, Odd.options.limits.Within {} ∧
    run Odd.tree Odd.options Sink.listing.handed ([], []) =
      .ok report ([Odd.made], [Odd.made]) ∧
    run Odd.tree { Odd.options with limits := {}, permissive := true } Sink.listing.handed
      ([], []) = .ok report ([Odd.made], [Odd.made]) := by
  obtain ⟨report, hrun⟩ := Odd.exists_run
  have hlimits : Odd.options.limits.Within {} := ⟨by decide, by decide, by decide⟩
  exact ⟨report, hlimits, hrun, run_relaxed hlimits (fun _ => rfl) _ hrun⟩

end Generation

end SchemaBinding
