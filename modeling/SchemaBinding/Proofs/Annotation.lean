import SchemaBinding.Proofs.Component.Trimmed
import SchemaBinding.Proofs.Emission.Beside
import SchemaBinding.Proofs.Emission.Confined
import SchemaBinding.Proofs.Loading.Beside
import SchemaBinding.Proofs.Loading.Texts

namespace SchemaBinding

open Sink (GeneratedFile)

/-- Texts of documents within the limits that differ in annotations and foreign markup at most. -/
structure Limits.Annotates (limits : Limits) (text other : String) : Prop where
  size : text.utf8ByteSize ≤ limits.size
  size' : other.utf8ByteSize ≤ limits.size
  documents : ∃ document document', Xml.Document.parse text limits = .ok document ∧
    Xml.Document.parse other limits = .ok document' ∧
      document.root.trimmed.Alike document'.root.trimmed

namespace FileTree.Alike

variable {limits : Limits} {tree other : FileTree} (h : tree.Alike limits.Annotates other)

include h

theorem beside (permissive : Bool) :
    Setting.Beside { documented := False } ⟨tree, limits, permissive⟩
      ⟨other, limits, permissive⟩ where
  fetch location := by
    cases location with
    | remote url => exact .fail _ _ _
    | file path =>
        have hread := h.readText_concurs path
        generalize hresult : tree.readText path = result at hread
        generalize hresult' : other.readText path = result' at hread
        cases hread with
        | error heq =>
            cases heq
            simp only [Setting.fetch, Location.load, Location.readFrom, hresult, hresult']
            exact .fail _ _ _
        | ok htexts =>
            rcases htexts with rfl | ⟨hsize, hsize', document, document', hparse, hparse', htrimmed⟩
            · simp only [Setting.fetch, Location.load, Location.readFrom, hresult, hresult']
              exact .self _ (fun document => .refl _ document.root) _
            · have hfetch : Setting.fetch ⟨tree, limits, permissive⟩ (.file path) = .ok document :=
                Setting.fetch_eq_ok_iff.mpr ⟨rfl, _, hresult, hsize, hparse⟩
              have hfetch' :
                  Setting.fetch ⟨other, limits, permissive⟩ (.file path) = .ok document' :=
                Setting.fetch_eq_ok_iff.mpr ⟨rfl, _, hresult', hsize', hparse'⟩
              rw [hfetch, hfetch']
              exact .ok (Xml.Element.akin_of_trimmed htrimmed)
  permissive := .inl rfl
  documents := .inl rfl

end FileTree.Alike

structure Sink.GeneratedFile.Alike (made other : GeneratedFile) : Prop where
  package : made.package = other.package
  file : made.file = other.file
  contents : ∃ file file' : StructFile, made.contents = file.text ∧ other.contents = file'.text ∧
    file.undocumented = file'.undocumented

theorem Sink.alike_listing :
    listing.Alike False (List.Forall₂ GeneratedFile.Alike) listing := by
  intro package name file other halike state state' hstate
  exact .ok rfl (List.rel_append hstate (.cons ⟨rfl, rfl, file, other, rfl, rfl, halike.same⟩ .nil))

namespace Generation

theorem ends_load_annotated {tree other : FileTree} {options : Options}
    (h : tree.Alike options.limits.Annotates other) :
    Ends { documented := False } (SchemaSet.Beside { documented := False }) (load tree options)
      (load other options) := by
  have hroots : options.rootPaths tree = options.rootPaths other := by
    rw [Options.rootPaths, funext h.namesIn_eq, Options.rootPaths]
  simp only [load, hroots]
  cases options.validate with
  | error error => exact .fail _ _ error
  | ok _ =>
      cases options.rootPaths other with
      | error error => exact .fail _ _ error
      | ok roots => exact SchemaSet.ends_load (h.beside options.permissive) roots

/-- Annotations and foreign markup change the documentation at most: of what a document is read to,
and of what is written for trees of documents. -/
theorem run_trimmed :
    (∀ document other : Xml.Document, document.root.trimmed.Alike other.root.trimmed →
      ∀ (id : DocumentId) (label : String) (permissive : Bool) (first second : Model),
        first.Same False second →
          Concurs Error.Resembles
            (fun result result' => result.1 = result'.1 ∧ result.2.Same False result'.2)
            (Schema.read document id label permissive first)
            (Schema.read other id label permissive second)) ∧
    ∀ (tree other : FileTree) (options : Options), tree.Alike options.limits.Annotates other →
      Runs Eq (List.Forall₂ GeneratedFile.Alike) (run tree options .listing [])
        (run other options .listing []) := by
  constructor
  · intro document other htrimmed id label permissive first second hsame
    exact Schema.concurs_read (Xml.Element.akin_of_trimmed htrimmed) id label permissive hsame
  · intro tree other options halike
    have hload := ends_load_annotated halike
    exact runs_run not_false hload ⟨rfl, rfl, rfl⟩ Sink.alike_listing .nil

end Generation

/-! The one type of `Odd`, with annotations and an element of another namespace. -/

namespace Odd

def noted : String :=
  "<schema xmlns=\"http://www.w3.org/2001/XMLSchema\" targetNamespace=\"urn:go\">" ++
    "<complexType name=\"9-größe\"><annotation><documentation>Nine.</documentation></annotation>" ++
    "<note xmlns=\"urn:note\"/>" ++
    "<attribute name=\"1st.värde\" type=\"string\"/></complexType></schema>"

def notedTree : FileTree :=
  ⟨[(⟨.above 0, ["a.xsd"]⟩, .file (.text noted))]⟩

theorem exists_documents : ∃ document document',
    Xml.Document.parse text options.limits = .ok document ∧
      Xml.Document.parse noted options.limits = .ok document' ∧
        document.root.trimmed.Alike document'.root.trimmed := by
  obtain ⟨document, document', hparse, hparse', hagrees⟩ :
      ∃ document document', Xml.Document.parse text options.limits = .ok document ∧
        Xml.Document.parse noted options.limits = .ok document' ∧
          document.root.trimmed.agrees document'.root.trimmed = true :=
    exists_ok_of_bind (by decide +kernel)
  exact ⟨document, document', hparse, hparse', Xml.Element.alike_of_agrees _ _ hagrees⟩

theorem annotates : options.limits.Annotates text noted :=
  ⟨by decide +kernel, by decide +kernel, exists_documents⟩

theorem alike_notedTree : tree.Alike options.limits.Annotates notedTree :=
  .cons ⟨rfl, .text annotates⟩ .nil

theorem exists_run_listing : ∃ report,
    Generation.run tree options Sink.listing [] = .ok report [made] := by
  obtain ⟨report, hrun⟩ := exists_run
  refine ⟨report, ?_⟩
  rw [← Generation.run_actsAs Sink.listing.handed_seenAs tree options ([], []), hrun]
  rfl

end Odd

theorem Generation.run_trimmed_noted : ∃ document document' report other,
    document.root.trimmed.Alike document'.root.trimmed ∧ Model.Same False {} {} ∧
    Concurs Error.Resembles
      (fun result result' => result.1 = result'.1 ∧ result.2.Same False result'.2)
      (Schema.read document ⟨0⟩ "a.xsd" false {}) (Schema.read document' ⟨0⟩ "a.xsd" false {}) ∧
    Odd.tree.Alike Odd.options.limits.Annotates Odd.notedTree ∧
    run Odd.tree Odd.options .listing [] = .ok report [Odd.made] ∧
    run Odd.notedTree Odd.options .listing [] = .ok report [other] ∧ Odd.made.Alike other := by
  obtain ⟨document, document', _, _, halike⟩ := Odd.exists_documents
  obtain ⟨report, hrun⟩ := Odd.exists_run_listing
  obtain ⟨hread, hruns⟩ := run_trimmed
  have hnoted := hruns Odd.tree Odd.notedTree Odd.options Odd.alike_notedTree
  rw [hrun] at hnoted
  obtain ⟨_, _, hrun', rfl, hfiles⟩ := hnoted.exists_ok
  cases hfiles with
  | cons hmade hnone =>
      cases hnone
      exact ⟨document, document', report, _, halike, .empty False,
        hread document document' halike ⟨0⟩ "a.xsd" false {} {} (.empty False),
        Odd.alike_notedTree, hrun, hrun', hmade⟩

end SchemaBinding
