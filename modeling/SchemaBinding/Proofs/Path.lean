import SchemaBinding.Path

namespace SchemaBinding

theorem toList_joinWith (between : String) (pieces : List String) :
    (Text.joinWith between pieces).toList =
      between.toList.intercalate (pieces.map String.toList) := by
  induction pieces with
  | nil => rfl
  | cons first rest ih =>
      cases rest with
      | nil => simp [Text.joinWith]
      | cons second rest =>
          rw [Text.joinWith, String.toList_append, String.toList_append, ih]
          simp [List.intercalate_cons_cons]

theorem not_mem_of_mem_splitOn {α : Type} [DecidableEq α] {mark : α} {items piece : List α}
    (h : piece ∈ items.splitOn mark) : mark ∉ piece := by
  induction items generalizing piece with
  | nil =>
      rw [List.splitOn_nil, List.mem_singleton] at h
      rw [h]
      exact List.not_mem_nil
  | cons item rest ih =>
      rw [List.splitOn_cons_eq_if_modifyHead] at h
      split at h
      case isTrue =>
          rcases List.mem_cons.mp h with rfl | hrest
          · exact List.not_mem_nil
          · exact ih hrest
      case isFalse hne =>
          have hitem : mark ≠ item := by
            rintro rfl
            exact hne (beq_self_eq_true mark)
          cases hpieces : rest.splitOn mark with
          | nil => exact absurd hpieces (List.splitOn_ne_nil mark rest)
          | cons first others =>
              rw [hpieces, List.modifyHead_cons] at h
              rw [hpieces] at ih
              rcases List.mem_cons.mp h with rfl | hother
              · rw [List.mem_cons, not_or]
                exact ⟨hitem, ih List.mem_cons_self⟩
              · exact ih (List.mem_cons_of_mem first hother)

namespace Path

/-- A name of an entry of a directory. -/
structure Plain (name : String) : Prop where
  step : stepOf? name = some (.down name)
  slash : '/' ∉ name.toList

/-- Names that are folded already, innermost first: a step up can only stand outermost. -/
inductive Folded : List String → Prop
  | top : Folded []
  | up : Folded [".."]
  | down {name : String} {outer : List String} :
      Plain name → Folded outer → Folded (name :: outer)

theorem Folded.mem {names : List String} (h : Folded names) {name : String}
    (hname : name ∈ names) : name = ".." ∨ Plain name := by
  induction h with
  | top => cases hname
  | up => exact .inl (List.mem_singleton.mp hname)
  | down hplain _ ih =>
      rcases List.mem_cons.mp hname with rfl | houter
      · exact .inr hplain
      · exact ih houter

theorem Folded.stepFrom {names : List String} (h : Folded names) {step : Step}
    (hstep : ∀ name, step = .down name → Plain name) : Folded (stepFrom names step) := by
  cases step with
  | up =>
      cases h with
      | top => exact .up
      | up => exact .top
      | down _ houter => exact houter
  | down name =>
      have hplain := hstep name rfl
      cases names with
      | nil => exact .down hplain h
      | cons first outer => exact .down hplain h

theorem folded_foldSteps {steps : List Step} {names : List String} (h : Folded names)
    (hsteps : ∀ name, .down name ∈ steps → Plain name) : Folded (foldSteps names steps) := by
  induction steps generalizing names with
  | nil => exact h
  | cons step rest ih =>
      apply ih
      · apply h.stepFrom
        rintro name rfl
        exact hsteps name List.mem_cons_self
      · intro name hname
        exact hsteps name (List.mem_cons_of_mem step hname)

theorem stepOf?_eq_down {piece name : String} (h : stepOf? piece = some (.down name)) :
    piece = name := by
  unfold stepOf? at h
  split at h
  · cases h
  · split at h
    · cases h
    · cases h
      rfl

theorem slash_of_mem_pieces {path : Path} {piece : String} (h : piece ∈ path.pieces) :
    '/' ∉ piece.toList := by
  obtain ⟨letters, hletters, rfl⟩ := List.mem_map.mp h
  rw [← List.splitOn_eq_splitOnP] at hletters
  rw [String.toList_ofList]
  exact not_mem_of_mem_splitOn hletters

theorem plain_of_mem_steps {path : Path} {name : String} (h : .down name ∈ path.steps) :
    Plain name := by
  obtain ⟨piece, hpiece, hstep⟩ := List.mem_filterMap.mp h
  have hname := stepOf?_eq_down hstep
  subst hname
  exact ⟨hstep, slash_of_mem_pieces hpiece⟩

theorem folded_steps (path : Path) : Folded (foldSteps [] path.steps) :=
  folded_foldSteps .top fun _ => plain_of_mem_steps

theorem Folded.foldSteps_eq {names : List String} (h : Folded names) :
    foldSteps [] (names.reverse.filterMap stepOf?) = names := by
  induction h with
  | top => rfl
  | up => rfl
  | @down name outer hplain _ ih =>
      rw [List.reverse_cons, List.filterMap_append, foldSteps_append, ih]
      simp only [List.filterMap_cons, hplain.step, List.filterMap_nil]
      cases outer <;> rfl

theorem Folded.slash {names : List String} (h : Folded names) {name : String}
    (hname : name ∈ names) : '/' ∉ name.toList := by
  rcases h.mem hname with rfl | hplain
  · decide
  · exact hplain.slash

theorem Folded.nonempty {names : List String} (h : Folded names) {name : String}
    (hname : name ∈ names) : name ≠ "" := by
  rintro rfl
  rcases h.mem hname with heq | hplain
  · exact absurd heq (by decide)
  · cases hplain.step

theorem pieces_ofNames {names : List String} (h : ∀ name ∈ names, '/' ∉ name.toList)
    (absolute : Bool) :
    (ofNames absolute names).pieces =
      (if absolute then [""] else []) ++ (if names = [] then [""] else names) := by
  have hsplit : (Text.joinWith "/" names).toList.splitOnP (· == '/') =
      if names = [] then [[]] else names.map String.toList := by
    rw [toList_joinWith, ← List.splitOn_eq_splitOnP]
    split
    case isTrue heq =>
        subst heq
        rfl
    case isFalse hne =>
        apply List.splitOn_intercalate
        · intro letters hletters
          obtain ⟨name, hname, rfl⟩ := List.mem_map.mp hletters
          exact h name hname
        · rw [ne_eq, List.map_eq_nil_iff]
          exact hne
  have hback : (names.map String.toList).map String.ofList = names := by
    rw [List.map_map]
    exact List.map_id'' (fun name => String.ofList_toList) names
  have hpieces : ((Text.joinWith "/" names).toList.splitOnP (· == '/')).map String.ofList =
      if names = [] then [""] else names := by
    rw [hsplit]
    split
    · rfl
    · exact hback
  cases absolute with
  | false => simpa [ofNames, pieces] using hpieces
  | true => simpa [ofNames, pieces, List.splitOnP_cons_eq_if_modifyHead] using hpieces

theorem steps_ofNames {names : List String} (h : ∀ name ∈ names, '/' ∉ name.toList)
    (absolute : Bool) : (ofNames absolute names).steps = names.filterMap stepOf? := by
  have hempty : stepOf? "" = none := rfl
  have hnames : (if names = [] then [""] else names).filterMap stepOf? =
      names.filterMap stepOf? := by
    split
    case isTrue heq =>
        rw [heq]
        rfl
    case isFalse => rfl
  rw [steps, pieces_ofNames h, List.filterMap_append, hnames]
  cases absolute <;> simp [hempty]

theorem isAbsolute_ofNames {names : List String} (h : ∀ name ∈ names, '/' ∉ name.toList)
    (hnonempty : ∀ name ∈ names, name ≠ "") (absolute : Bool) :
    (ofNames absolute names).isAbsolute = absolute := by
  cases absolute with
  | true => simp [ofNames, isAbsolute]
  | false =>
      cases names with
      | nil => rfl
      | cons first rest =>
          have hslash := h first List.mem_cons_self
          have hfirst := hnonempty first List.mem_cons_self
          cases hletters : first.toList with
          | nil => exact absurd (String.toList_eq_nil_iff.mp hletters) hfirst
          | cons letter letters =>
              have hhead : (Text.joinWith "/" (first :: rest)).toList.head? = some letter := by
                rw [toList_joinWith, List.map_cons, hletters]
                cases rest with
                | nil => simp
                | cons second rest => simp [List.intercalate_cons_cons]
              have hletter : letter ≠ '/' := by
                rintro rfl
                rw [hletters] at hslash
                exact hslash List.mem_cons_self
              simp [ofNames, isAbsolute, hhead, hletter]

def foldedNames (path : Path) : List String :=
  (foldSteps [] path.steps).reverse

theorem slash_of_mem_foldedNames {path : Path} {name : String} (h : name ∈ path.foldedNames) :
    '/' ∉ name.toList :=
  (folded_steps path).slash (List.mem_reverse.mp h)

theorem steps_normalize (path : Path) :
    path.normalize.steps = path.foldedNames.filterMap stepOf? :=
  steps_ofNames (fun _ => slash_of_mem_foldedNames) path.isAbsolute

theorem isAbsolute_normalize (path : Path) : path.normalize.isAbsolute = path.isAbsolute :=
  isAbsolute_ofNames (fun _ => slash_of_mem_foldedNames)
    (fun _ hname => (folded_steps path).nonempty (List.mem_reverse.mp hname)) path.isAbsolute

theorem normalize_normalize (path : Path) : path.normalize.normalize = path.normalize := by
  rw [normalize, steps_normalize, isAbsolute_normalize, foldedNames,
    (folded_steps path).foldSteps_eq, normalize]

/-! Routes. -/

theorem route_ofNames {names : List String} (hslash : ∀ name ∈ names, '/' ∉ name.toList)
    (hnonempty : ∀ name ∈ names, name ≠ "") (absolute : Bool) :
    (ofNames absolute names).route = names := by
  have hnames : (if names = [] then [""] else names).filter (· != "") = names := by
    split
    case isTrue heq =>
        rw [heq]
        rfl
    case isFalse =>
        apply List.filter_eq_self.mpr
        intro name hname
        exact bne_iff_ne.mpr (hnonempty name hname)
  rw [route, pieces_ofNames hslash, List.filter_append, hnames]
  cases absolute <;> rfl

theorem suffix_of_mem_outerRoutes {names outer : List String} (h : names ∈ outerRoutes outer) :
    names <:+ outer := by
  induction outer with
  | nil => cases h
  | cons name rest ih =>
      rw [outerRoutes] at h
      split at h
      case isTrue => exact (ih h).trans (List.suffix_cons name rest)
      case isFalse =>
          rcases List.mem_cons.mp h with rfl | hrest
          · exact List.suffix_refl _
          · exact (ih hrest).trans (List.suffix_cons name rest)

theorem Plain.nonempty {name : String} (h : Plain name) : name ≠ "" := by
  rintro rfl
  cases h.step

theorem route_append_slash (before : List Char) {name : String} (h : Plain name) :
    route ⟨String.ofList (before ++ '/' :: name.toList)⟩ =
      route ⟨String.ofList before⟩ ++ [name] := by
  have hname : name.toList.splitOnP (· == '/') = [name.toList] := by
    rw [← List.splitOn_eq_splitOnP]
    exact List.splitOn_eq_singleton h.slash
  simp only [route, pieces, String.toList_ofList]
  rw [List.splitOnP_append_cons before name.toList (by decide), hname, List.map_append,
    List.filter_append]
  simp [h.nonempty]

theorem route_of_slash (before : List Char) :
    route ⟨String.ofList (before ++ ['/'])⟩ = route ⟨String.ofList before⟩ := by
  simp only [route, pieces, String.toList_ofList]
  rw [List.splitOnP_append_cons before [] (by decide), List.map_append, List.filter_append]
  simp

/-- What joining a name to a path gives: one piece more, and no slash at the end. -/
structure Joins (path joined : Path) (name : String) : Prop where
  isAbsolute : joined.isAbsolute = path.isAbsolute
  route : joined.route = path.route ++ [name]
  endsWithSlash : joined.endsWithSlash = false

theorem joins_slash {path : Path} {before : List Char} {name : String} (h : Plain name)
    (hroute : path.route = route ⟨String.ofList before⟩)
    (hhead : path.text.toList.head? = (before ++ ['/']).head?) :
    path.Joins ⟨String.ofList (before ++ '/' :: name.toList)⟩ name where
  isAbsolute := by
    simp only [isAbsolute, hhead, String.toList_ofList]
    cases before <;> rfl
  route := by rw [route_append_slash before h, hroute]
  endsWithSlash := by
    have hnonempty : name.toList ≠ [] :=
      fun hnil => h.nonempty (String.toList_eq_nil_iff.mp hnil)
    have hlast : name.toList.getLast? ≠ some '/' := fun heq => h.slash (List.mem_of_getLast? heq)
    rw [List.getLast?_eq_some_getLast hnonempty] at hlast
    rw [endsWithSlash, String.toList_ofList, List.append_cons, List.getLast?_append,
      List.getLast?_eq_some_getLast hnonempty]
    simpa using hlast

theorem joins_empty {name : String} (h : Plain name) : Joins ⟨""⟩ ⟨name⟩ name where
  isAbsolute := by
    have hhead : name.toList.head? ≠ some '/' := fun heq => h.slash (List.mem_of_head? heq)
    simpa [isAbsolute] using hhead
  route := by
    have hname : name.toList.splitOnP (· == '/') = [name.toList] := by
      rw [← List.splitOn_eq_splitOnP]
      exact List.splitOn_eq_singleton h.slash
    simp [route, pieces, hname, h.nonempty]
  endsWithSlash := by
    have hlast : name.toList.getLast? ≠ some '/' := fun heq => h.slash (List.mem_of_getLast? heq)
    simpa [endsWithSlash] using hlast

theorem joins_join (path : Path) {name : String} (h : Plain name) :
    path.Joins (path.join ⟨name⟩) name := by
  have hrelative : isAbsolute ⟨name⟩ = false := (joins_empty h).isAbsolute
  obtain ⟨text⟩ := path
  unfold join
  by_cases hempty : text = ""
  · subst hempty
    rw [if_pos (by simp)]
    exact joins_empty h
  · rw [if_neg (by simp [hempty, hrelative])]
    split
    case isTrue hend =>
        obtain ⟨before, hbefore⟩ : ∃ before, text.toList = before ++ ['/'] := by
          apply List.getLast?_eq_some_iff.mp
          simpa [endsWithSlash] using hend
        have htext : text = String.ofList (before ++ ['/']) := by
          rw [← hbefore, String.ofList_toList]
        have hjoin : text ++ name = String.ofList (before ++ '/' :: name.toList) := by
          rw [List.append_cons, ← hbefore, String.ofList_append, String.ofList_toList,
            String.ofList_toList]
        rw [hjoin]
        exact joins_slash h (htext ▸ route_of_slash before) (by rw [hbefore])
    case isFalse =>
        have hjoin : text ++ "/" ++ name = String.ofList (text.toList ++ '/' :: name.toList) := by
          apply String.toList_inj.mp
          simp
        rw [hjoin]
        apply joins_slash h (by rw [String.ofList_toList])
        cases hletters : text.toList with
        | nil => exact absurd (String.toList_eq_nil_iff.mp hletters) hempty
        | cons first rest => rfl

end Path

end SchemaBinding
