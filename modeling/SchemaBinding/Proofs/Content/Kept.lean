import SchemaBinding.Resolution.Content
import SchemaBinding.Proofs.Discovery

namespace SchemaBinding.Content

def names (members : List Member) : List String :=
  members.map Member.name

/-- The entries whose name is not among the taken ones and not the name of an earlier entry. -/
def kept (taken : List String) (entries : List Member) : List Member :=
  (entries.zipIdx.filter fun entry =>
    decide (entry.1.name ∉ taken ∧ entry.1.name ∉ names (entries.take entry.2))).map Prod.fst

theorem mem_of_mem_kept {taken : List String} {entries : List Member} {member : Member}
    (h : member ∈ kept taken entries) : member ∈ entries := by
  obtain ⟨entry, hentry, rfl⟩ := List.mem_map.mp h
  exact List.fst_mem_of_mem_zipIdx (List.mem_filter.mp hentry).1

theorem names_append (first second : List Member) :
    names (first ++ second) = names first ++ names second :=
  List.map_append

theorem mem_names_singleton {member : Member} {name : String} :
    name ∈ names [member] ↔ name = member.name :=
  List.mem_singleton

theorem kept_concat (taken : List String) (entries : List Member) (entry : Member) :
    kept taken (entries ++ [entry]) = kept taken entries ++
      ([entry].filter fun last => decide (last.name ∉ taken ∧ last.name ∉ names entries)) := by
  have hearlier : ∀ item ∈ entries.zipIdx,
      decide (item.1.name ∉ taken ∧ item.1.name ∉ names ((entries ++ [entry]).take item.2)) =
        decide (item.1.name ∉ taken ∧ item.1.name ∉ names (entries.take item.2)) := by
    intro item hitem
    have hindex : item.2 ≤ entries.length := by
      have hlt := List.snd_lt_of_mem_zipIdx hitem
      omega
    rw [List.take_append_of_le_length hindex]
  rw [kept, List.zipIdx_append, List.filter_append, List.filter_congr hearlier, List.map_append]
  congr 1
  rw [List.zipIdx_singleton, Nat.zero_add, List.filter_cons, List.filter_cons, List.take_left]
  split <;> rfl

theorem kept_concat_of_taken {taken : List String} {entries : List Member} {entry : Member}
    (h : entry.name ∈ taken ∨ entry.name ∈ names entries) :
    kept taken (entries ++ [entry]) = kept taken entries := by
  rw [kept_concat, List.filter_cons_of_neg, List.filter_nil, List.append_nil]
  simpa [Decidable.imp_iff_not_or] using h

theorem kept_concat_of_new {taken : List String} {entries : List Member} {entry : Member}
    (h : ¬ (entry.name ∈ taken ∨ entry.name ∈ names entries)) :
    kept taken (entries ++ [entry]) = kept taken entries ++ [entry] := by
  rw [kept_concat, List.filter_cons_of_pos, List.filter_nil]
  simpa using h

theorem mem_names_kept_iff {taken : List String} {entries : List Member} {name : String} :
    name ∈ names (kept taken entries) ↔ name ∉ taken ∧ name ∈ names entries := by
  induction entries using List.reverseRecOn with
  | nil => simp [kept, names]
  | append_singleton entries entry ih =>
      rw [names_append, List.mem_append]
      by_cases htaken : entry.name ∈ taken ∨ entry.name ∈ names entries
      · rw [kept_concat_of_taken htaken, ih, mem_names_singleton]
        constructor
        · rintro ⟨hfree, hmem⟩
          exact ⟨hfree, .inl hmem⟩
        · rintro ⟨hfree, hmem | rfl⟩
          · exact ⟨hfree, hmem⟩
          · exact ⟨hfree, htaken.resolve_left hfree⟩
      · rw [kept_concat_of_new htaken, names_append, List.mem_append, ih, mem_names_singleton]
        constructor
        · rintro (⟨hfree, hmem⟩ | rfl)
          · exact ⟨hfree, .inl hmem⟩
          · exact ⟨fun h => htaken (.inl h), .inr rfl⟩
        · rintro ⟨hfree, hmem | rfl⟩
          · exact .inl ⟨hfree, hmem⟩
          · exact .inr rfl

theorem nodup_names_kept (taken : List String) (entries : List Member) :
    (names (kept taken entries)).Nodup := by
  induction entries using List.reverseRecOn with
  | nil => exact List.nodup_nil
  | append_singleton entries entry ih =>
      by_cases htaken : entry.name ∈ taken ∨ entry.name ∈ names entries
      · rw [kept_concat_of_taken htaken]
        exact ih
      · rw [kept_concat_of_new htaken, names_append]
        apply nodup_concat ih
        intro hmem
        exact htaken (.inr (mem_names_kept_iff.mp hmem).2)

def first? (entries : List Member) (name : String) : Option Member :=
  entries.find? fun entry => entry.name = name

section

variable {taken : List String} {entries : List Member} {member : Member} {name : String}

theorem mem_of_first? (h : first? entries name = some member) : member ∈ entries :=
  List.mem_of_find?_eq_some h

theorem name_of_first? (h : first? entries name = some member) : member.name = name := by
  rw [first?, List.find?_eq_some_iff_append] at h
  exact of_decide_eq_true h.1

theorem first?_eq_none_iff : first? entries name = none ↔ name ∉ names entries := by
  simp [first?, names]

theorem first?_append (first second : List Member) (name : String) :
    first? (first ++ second) name = (first? first name).or (first? second name) :=
  List.find?_append

theorem first?_of_nodup (hnames : (names entries).Nodup) (hmember : member ∈ entries) :
    first? entries member.name = some member := by
  cases hfound : first? entries member.name with
  | none => exact absurd (List.mem_map_of_mem hmember) (first?_eq_none_iff.mp hfound)
  | some other =>
      rw [List.inj_on_of_nodup_map hnames (mem_of_first? hfound) hmember (name_of_first? hfound)]

theorem mem_kept_iff : member ∈ kept taken entries ↔
    member.name ∉ taken ∧ first? entries member.name = some member := by
  induction entries using List.reverseRecOn with
  | nil => simp [kept, first?]
  | append_singleton entries entry ih =>
      rw [first?_append]
      -- the last entry counts if its name is new, and then nothing before it is found under that
      by_cases htaken : entry.name ∈ taken ∨ entry.name ∈ names entries
      · rw [kept_concat_of_taken htaken, ih]
        refine and_congr_right fun hfree => ?_
        cases hfound : first? entries member.name with
        | some other => rfl
        | none =>
            have hne : entry.name ≠ member.name := by
              intro heq
              rw [heq] at htaken
              exact htaken.elim hfree (first?_eq_none_iff.mp hfound)
            simp [first?, hne]
      · obtain ⟨hfree, hnew⟩ := not_or.mp htaken
        rw [kept_concat_of_new htaken, List.mem_append, ih, List.mem_singleton]
        cases hfound : first? entries member.name with
        | some other =>
            have hne : member ≠ entry := by
              rintro rfl
              rw [first?_eq_none_iff.mpr hnew] at hfound
              cases hfound
            simp [hne]
        | none =>
            constructor
            · rintro (⟨_, h⟩ | rfl)
              · cases h
              · exact ⟨hfree, by simp [first?]⟩
            · rintro ⟨_, h⟩
              rw [Option.none_or] at h
              exact .inr (List.mem_singleton.mp (mem_of_first? h))

end

def extendedBy (content : Content) (entries : List Member) : Content :=
  { content with
    members := content.members ++ kept content.fieldNames entries
    fieldNames := content.fieldNames ++ names (kept content.fieldNames entries) }

theorem mem_fieldNames_extendedBy_iff {content : Content} {entries : List Member}
    {name : String} : name ∈ (content.extendedBy entries).fieldNames ↔
      name ∈ content.fieldNames ∨ name ∈ names entries := by
  simp only [extendedBy, List.mem_append, mem_names_kept_iff]
  by_cases h : name ∈ content.fieldNames <;> simp [h]

theorem addAll_eq (content : Content) (entries : List Member) :
    content.addAll entries = content.extendedBy entries := by
  induction entries using List.reverseRecOn with
  | nil => simp [addAll, extendedBy, kept, names]
  | append_singleton entries entry ih =>
      have hlast :
          content.addAll (entries ++ [entry]) = (content.extendedBy entries).add entry := by
        rw [← ih, addAll, List.foldl_append]
        rfl
      rw [hlast, add]
      split
      case isTrue htaken =>
          rw [extendedBy, extendedBy,
            kept_concat_of_taken (mem_fieldNames_extendedBy_iff.mp htaken)]
      case isFalse hnew =>
          rw [mem_fieldNames_extendedBy_iff] at hnew
          rw [extendedBy, extendedBy, kept_concat_of_new hnew, names_append, List.append_assoc,
            List.append_assoc]
          rfl

end SchemaBinding.Content
