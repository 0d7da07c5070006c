import SchemaBinding.Proofs.Emission.Handed
import SchemaBinding.Proofs.Path

namespace SchemaBinding

open Sink (GeneratedFile)

namespace Path

/-- Where a path leads when its pieces are taken one by one. -/
def place (path : Path) : Place :=
  path.route.foldl Place.step (.start path)

theorem Joins.place {path joined : Path} {name : String} (h : path.Joins joined name) :
    joined.place = path.place.step name := by
  simp only [Path.place, Place.start, h.route, h.isAbsolute, List.foldl_append, List.foldl_cons,
    List.foldl_nil]

theorem Plain.step_eq {name : String} (h : Plain name) (place : Place) :
    place.step name = place.child name := by
  unfold Place.step
  split
  case h_1 => cases h.step
  case h_2 => cases h.step
  case h_3 => rfl

theorem place_join {path : Path} {name : String} (h : Plain name) :
    (path.join ⟨name⟩).place = path.place.child name := by
  rw [(path.joins_join h).place, h.step_eq]

theorem place_of_mem_parents {path parent : Path} {name : String} (h : Plain name)
    (hparent : parent ∈ (path.join ⟨name⟩).parents) :
    ∃ above, above <+: path.route ∧ parent.place = above.foldl Place.step (.start path) := by
  have hjoins := path.joins_join h
  have hdot : (name == ".") = false := by
    rw [beq_eq_false_iff_ne]
    rintro rfl
    cases h.step
  have houter : ((path.join ⟨name⟩).route.reverse.dropWhile (· == ".")).drop 1 =
      path.route.reverse := by
    rw [hjoins.route, List.reverse_append]
    simp [hdot]
  obtain ⟨names, hnames, rfl⟩ := List.mem_map.mp hparent
  rw [houter] at hnames
  have hbelow : names.reverse <+: path.route := by
    have hsuffix := List.reverse_prefix.mpr (suffix_of_mem_outerRoutes hnames)
    rwa [List.reverse_reverse] at hsuffix
  have hroute : ∀ name ∈ names.reverse, '/' ∉ name.toList ∧ name ≠ "" := by
    intro piece hpiece
    obtain ⟨hmem, hnonempty⟩ := List.mem_filter.mp (hbelow.subset hpiece)
    exact ⟨slash_of_mem_pieces hmem, bne_iff_ne.mp hnonempty⟩
  have hslash := fun name hname => (hroute name hname).1
  have hnonempty := fun name hname => (hroute name hname).2
  refine ⟨names.reverse, hbelow, ?_⟩
  rw [place, route_ofNames hslash hnonempty, Place.start, isAbsolute_ofNames hslash hnonempty,
    hjoins.isAbsolute, Place.start]

end Path

namespace FileTree

variable {tree next : FileTree}

theorem follow_eq {place reached : Place} {route : List String}
    (h : tree.follow place route = .ok reached) : reached = route.foldl Place.step place := by
  induction route generalizing place with
  | nil =>
      cases h
      rfl
  | cons piece rest ih =>
      rw [follow] at h
      split at h
      case h_1 =>
          split at h
          · cases h
          · exact ih h
      case h_2 => cases h
      case h_3 => cases h

theorem locateBy_eq {path : Path} {route : List String} {reached : Place}
    (h : tree.locateBy path route = .ok reached) :
    reached = route.foldl Place.step (.start path) := by
  unfold locateBy at h
  split at h
  · cases h
  · exact follow_eq h

theorem node?_set (tree : FileTree) (place other : Place) (node : Node) :
    (tree.set place node).node? other = tree.node? other ∨
      other = place ∧ (tree.set place node).node? other = some node := by
  unfold node? set
  by_cases hnames : other.names.isEmpty = true
  · simp [hnames]
  · simp only [hnames]
    by_cases heq : other = place
    · subst heq
      exact .inr ⟨rfl, Table.get?_put_self _ _ _⟩
    · exact .inl (Table.get?_put_other _ _ heq)

theorem makeDirectory_eq_ok {path : Path} (h : tree.makeDirectory path = .ok next) :
    next = tree ∨ tree.node? path.place = none ∧ next = tree.set path.place .directory := by
  simp only [makeDirectory, bind_eq_ok_iff] at h
  obtain ⟨place, hplace, hnext⟩ := h
  have heq : place = path.place := locateBy_eq hplace
  subst heq
  split at hnext
  case h_1 hnone =>
      cases hnext
      exact .inr ⟨hnone, rfl⟩
  case h_2 =>
      cases hnext
      exact .inl rfl
  case h_3 => cases hnext

theorem write_eq_ok {path : Path} {contents : Contents} (hend : path.endsWithSlash = false)
    (h : tree.write path contents = .ok next) : next = tree.set path.place (.file contents) := by
  simp only [write, routeToWrite, hend, bind_eq_ok_iff] at h
  obtain ⟨place, hplace, h⟩ := h
  have heq : place = path.place := locateBy_eq hplace
  subst heq
  split at h
  · cases h
  · cases h
    rfl

/-- What the making of each directory does is what making them inside each other does. -/
theorem makeInside_rel {Rel : FileTree → FileTree → Prop}
    (htrans : ∀ {first second third}, Rel first second → Rel second third → Rel first third)
    {make : Path → StateM FileTree (Except FileFault Unit)} {path : Path} {parents : List Path}
    (hmake : ∀ one ∈ path :: parents, ∀ tree, Rel tree (make one tree).2) (tree : FileTree) :
    Rel tree (makeInside make path parents tree).2 := by
  induction parents generalizing path tree with
  | nil => exact hmake path List.mem_cons_self tree
  | cons parent above ih =>
      have hpath := hmake path List.mem_cons_self
      have hfirst := hpath tree
      rcases hmade : make path tree with ⟨made, middle⟩
      have hinside := ih (fun one hone => hmake one (List.mem_cons_of_mem path hone)) middle
      rcases habove : makeInside make parent above middle with ⟨result, last⟩
      have hlast := hpath last
      rw [hmade] at hfirst
      rw [habove] at hinside
      simp only [makeInside, bind, StateT.bind, hmade]
      split
      case h_1 =>
          simp only [StateT.bind, habove]
          cases result with
          | ok _ => exact htrans (htrans hfirst hinside) hlast
          | error fault => exact htrans hfirst hinside
      case h_2 => exact hfirst

end FileTree

theorem Path.plain_of_head {name : String} {first : Char} {rest : List Char}
    (hletters : name.toList = first :: rest) (hpoint : first ≠ '.') (hslash : '/' ∉ name.toList) :
    Plain name where
  slash := hslash
  step := by
    have hne : ∀ piece : String, piece.toList.head? = some '.' ∨ piece.toList = [] →
        name ≠ piece := by
      rintro piece hpiece rfl
      simp [hletters, hpoint] at hpiece
    simp [stepOf?, hne "" (by simp), hne "." (by simp), hne ".." (by simp)]

theorem Identifier.plain_of_isPackage {package : String} (h : isPackage package = true) :
    Path.Plain package := by
  have hvalid : isValid package = true := ((Bool.and_eq_true _ _).mp h).1
  unfold isValid at hvalid
  split at hvalid
  case h_1 => cases hvalid
  case h_2 first rest hletters =>
      rw [Bool.and_eq_true, List.all_eq_true] at hvalid
      obtain ⟨hfirst, hrest⟩ := hvalid
      apply Path.plain_of_head hletters
      · rintro rfl
        exact absurd hfirst (by decide)
      · rw [hletters]
        intro hslash
        rcases List.mem_cons.mp hslash with rfl | hmem
        · exact absurd hfirst (by decide)
        · exact absurd (hrest '/' hmem) (by decide)

theorem Identifier.IsFileName.plain {file : String} (h : IsFileName file) : Path.Plain file := by
  obtain ⟨first, rest, hletters, hfirst, hrest⟩ := h
  apply Path.plain_of_head hletters
  · rintro rfl
    exact absurd hfirst (by decide)
  · rw [hletters]
    intro hslash
    rcases List.mem_cons.mp hslash with rfl | hmem
    · exact absurd hfirst (by decide)
    · rcases List.mem_append.mp hmem with hstem | hend
      · exact absurd (hrest '/' hstem) (by decide)
      · simp at hend

/-! What becomes of the places of a file tree. -/

/-- A directory of a package, or one on the way to where these are. -/
def Path.Passes (root : Path) (place : Place) : Prop :=
  (∃ package, Identifier.isPackage package = true ∧ place = root.place.child package) ∨
    ∃ above, above <+: root.route ∧ place = above.foldl Place.step (.start root)

/-- What may become of a place when files are put into packages below a directory. -/
inductive Place.Fate (root : Path) (before after : FileTree) (place : Place) : Prop
  | untouched : after.node? place = before.node? place → Fate root before after place
  | written (made : GeneratedFile) : made.Legal → Path.Plain made.package →
      Path.Plain made.file → place = (root.place.child made.package).child made.file →
        after.node? place = some (.file (.text made.contents)) → Fate root before after place
  | opened : before.node? place = none → after.node? place = some .directory →
      root.Passes place → Fate root before after place

/-- Below a directory there are new files of packages only, and directories for them. -/
def FileTree.Confined (root : Path) (before after : FileTree) : Prop :=
  ∀ place : Place, place.Fate root before after

namespace FileTree.Confined

variable {root : Path} {first second third : FileTree}

theorem refl (root : Path) (tree : FileTree) : tree.Confined root tree :=
  fun _ => .untouched rfl

theorem trans (h : Confined root first second) (h' : Confined root second third) :
    Confined root first third := by
  intro place
  cases h' place with
  | written made hlegal hpackage hfile hplace hnode =>
      exact .written made hlegal hpackage hfile hplace hnode
  | untouched hsame =>
      cases h place with
      | untouched hbefore => exact .untouched (hsame.trans hbefore)
      | written made hlegal hpackage hfile hplace hnode =>
          exact .written made hlegal hpackage hfile hplace (hsame.trans hnode)
      | opened hnone hnode hpasses => exact .opened hnone (hsame.trans hnode) hpasses
  | opened hnone hnode hpasses =>
      cases h place with
      | untouched hbefore => exact .opened (hbefore.symm.trans hnone) hnode hpasses
      | written made _ _ _ _ hfile => cases hfile.symm.trans hnone
      | opened _ hdirectory _ => cases hdirectory.symm.trans hnone

theorem makeDirectory {path : Path} (hpath : root.Passes path.place)
    (h : first.makeDirectory path = .ok second) : Confined root first second := by
  rcases makeDirectory_eq_ok h with rfl | ⟨hnone, rfl⟩
  · exact refl root second
  · intro place
    rcases first.node?_set path.place place .directory with hsame | ⟨rfl, hnode⟩
    · exact .untouched hsame
    · exact .opened hnone hnode hpath

theorem makeDirectories {package : String} (hpackage : Identifier.isPackage package = true)
    (tree : FileTree) :
    Confined root tree (FileTree.makeDirectories (root.join ⟨package⟩) tree).2 := by
  have hplain := Identifier.plain_of_isPackage hpackage
  have hpasses : ∀ one ∈ root.join ⟨package⟩ :: (root.join ⟨package⟩).parents,
      root.Passes one.place := by
    intro one hone
    rcases List.mem_cons.mp hone with rfl | hparent
    · exact .inl ⟨package, hpackage, Path.place_join hplain⟩
    · exact .inr (Path.place_of_mem_parents hplain hparent)
  unfold FileTree.makeDirectories
  split
  case isTrue => exact refl root tree
  case isFalse =>
      refine @makeInside_rel (Confined root) trans _ _ _ ?_ tree
      intro one hone tree
      cases hmade : tree.makeDirectory one with
      | error fault => exact refl root tree
      | ok next => exact makeDirectory (hpasses one hone) hmade

end FileTree.Confined

namespace Sink

theorem write_directory (root : Path) (package file contents : String) (tree : FileTree) :
    (directory root).write package file contents tree =
      match (FileTree.makeDirectories (root.join ⟨package⟩) tree).1.bind fun () =>
        (FileTree.makeDirectories (root.join ⟨package⟩) tree).2.write
          ((root.join ⟨package⟩).join ⟨file⟩) (.text contents) with
      | .ok written => .ok () written
      | .error fault =>
          .error (.file fault) (FileTree.makeDirectories (root.join ⟨package⟩) tree).2 := by
  simp only [directory, bind, EStateM.bind, get, getThe, MonadStateOf.get, EStateM.get]
  rcases FileTree.makeDirectories (root.join ⟨package⟩) tree with ⟨made, opened⟩
  simp only [EStateM.bind, set, MonadStateOf.set, EStateM.set]
  cases made.bind fun () =>
    opened.write ((root.join ⟨package⟩).join ⟨file⟩) (.text contents) <;> rfl

theorem keeps_directory (root : Path) (before : FileTree) :
    (directory root).Keeps GeneratedFile.Legal (before.Confined root) := by
  intro made tree hlegal hbefore
  have hpackage := Identifier.plain_of_isPackage hlegal.package
  have hfile := hlegal.file.plain
  have hopened :
      before.Confined root (FileTree.makeDirectories (root.join ⟨made.package⟩) tree).2 :=
    hbefore.trans (FileTree.Confined.makeDirectories hlegal.package tree)
  rw [write_directory]
  split
  case h_1 written hwritten =>
      obtain ⟨_, _, hwrite⟩ := bind_eq_ok_iff.mp hwritten
      have hjoins := (root.join ⟨made.package⟩).joins_join hfile
      have hnext := FileTree.write_eq_ok hjoins.endsWithSlash hwrite
      rw [Path.place_join hfile, Path.place_join hpackage] at hnext
      apply hopened.trans
      intro place
      subst hnext
      rcases FileTree.node?_set _ ((root.place.child made.package).child made.file) place
        (.file (.text made.contents)) with hsame | ⟨rfl, hnode⟩
      · exact .untouched hsame
      · exact .written made hlegal hpackage hfile rfl hnode
  case h_2 => exact hopened

end Sink

/-- Every file that a run hands over is legal, taken or not and also if the run fails; so a run into
an output directory writes files of packages below it and nothing else. -/
theorem Generation.run_confined (tree : FileTree) (options : Options) :
    (∀ (σ : Type) (sink : Sink σ) (state : σ),
      let noted := run tree options sink.handed (state, [])
      seenBy Prod.fst noted = run tree options sink state ∧
        ∀ made ∈ (stateAfter noted).2, made.Legal) ∧
    ∀ (root : Path) (before : FileTree),
      before.Confined root (stateAfter (run tree options (.directory root) before)) := by
  constructor
  · intro σ sink state noted
    refine ⟨run_actsAs sink.handed_seenAs tree options (state, []), ?_⟩
    exact holds_after_run (sink.keeps_handed GeneratedFile.Legal) tree options (by simp)
  · intro root before
    exact holds_after_run (Sink.keeps_directory root before) tree options (.refl root before)

/-! A type and an attribute whose names are no identifiers, in a namespace that ends in a
keyword. -/

namespace Odd

open Emission

def text : String :=
  "<schema xmlns=\"http://www.w3.org/2001/XMLSchema\" targetNamespace=\"urn:go\">" ++
    "<complexType name=\"9-größe\"><attribute name=\"1st.värde\" type=\"string\"/>" ++
    "</complexType></schema>"

def tree : FileTree :=
  ⟨[(⟨.above 0, ["a.xsd"]⟩, .file (.text text))]⟩

def options : Options := { roots := [⟨"a.xsd"⟩], recursive := true, limits := .strict }

def made : GeneratedFile where
  package := "nsgo"
  file := "x9_gre.go"
  contents :=
    "// Code generated by xsdgo. DO NOT EDIT.\n\npackage nsgo\n\ntype X9Gre struct \x7b\n" ++
      "\tX1stVrde string `xml:\"1st.värde,attr,omitempty\"`\n\x7d\n"

def loaded : Except Error Loading :=
  Loading.supply ⟨{}, []⟩ options.limits options.permissive ⟨.file ⟨"a.xsd"⟩, none⟩ (.ok text)

def hands (set : SchemaSet) : Bool :=
  match set.typeDef ⟨0⟩ with
  | .ok type =>
      match Works.writeStruct set options Sink.listing.handed ⟨0⟩ type { sink := ([], []) } with
      | .ok referenced works => decide (referenced = [] ∧ works.sink = ([made], [made]))
      | .error _ _ => false
  | .error _ => false

theorem exists_loaded : ∃ next, loaded = .ok next ∧ next.pending = [] ∧
    seeds next.set options = [.type ⟨0⟩] ∧ hands next.set = true := by
  exact exists_ok_of_map (by decide +kernel)

theorem exists_run : ∃ report,
    Generation.run tree options Sink.listing.handed ([], []) = .ok report ([made], [made]) := by
  obtain ⟨next, hloaded, hpending, hseeds, hhands⟩ := exists_loaded
  have hload : Generation.load tree options = .ok next.set :=
    Generation.load_single (by decide +kernel) rfl rfl hloaded hpending
  unfold hands at hhands
  split at hhands
  case h_2 => cases hhands
  case h_1 type htype =>
      split at hhands
      case h_2 => cases hhands
      case h_1 referenced works hwrite =>
          obtain ⟨rfl, hnoted⟩ := of_decide_eq_true hhands
          refine ⟨⟨works.structs, next.set.size⟩, ?_⟩
          rw [← hnoted]
          exact Generation.run_of_type hload hseeds htype hwrite

end Odd

theorem Generation.run_confined_odd :
    ∃ report files, run Odd.tree Odd.options Sink.listing.handed ([], []) = .ok report files ∧
      Odd.made ∈ files.2 ∧ Odd.made.Legal ∧
        Odd.tree.Confined ⟨"out"⟩ (stateAfter (run Odd.tree Odd.options (.directory ⟨"out"⟩)
          Odd.tree)) := by
  obtain ⟨report, hrun⟩ := Odd.exists_run
  obtain ⟨hhanded, hconfined⟩ := run_confined Odd.tree Odd.options
  have hmade : Odd.made ∈ [Odd.made] := List.mem_singleton_self _
  have hlegal := (hhanded _ Sink.listing []).2
  rw [hrun] at hlegal
  exact ⟨report, _, hrun, hmade, hlegal Odd.made hmade, hconfined ⟨"out"⟩ Odd.tree⟩

end SchemaBinding
