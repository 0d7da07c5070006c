import SchemaBinding.Proofs.Emission.Complete
import SchemaBinding.Proofs.Loading.Single
import SchemaBinding.Proofs.Particle.Tree
import SchemaBinding.Proofs.Resolution.Cycle
import SchemaBinding.Proofs.SchemaSet.Home
import SchemaBinding.Proofs.SchemaSet.Lookup

namespace SchemaBinding

open Relation (TransGen ReflTransGen)

namespace Member

theorem within_within (inner outer : ParticleContext) (member : Member) :
    (member.within inner).within outer = member.within (inner.merge outer) := by
  obtain ⟨name, source⟩ := member
  cases source with
  | declaredAttribute id => rfl
  | declaredElement id context =>
      simp [within, ParticleContext.merge, Bool.or_assoc]

end Member

namespace Rules

variable (set : SchemaSet) {m : Type → Type} [Monad m] [LawfulMonad m] [MonadExceptOf Error m]
  (name : ElementId → m String) (members : GroupId → m (List Member))

mutual

/-- What encloses a particle is passed on to all its members. -/
theorem expandWith_merge (context outer : ParticleContext) : (particle : Particle) →
    expandWith set name members (context.merge outer) particle =
      List.map (Member.within outer) <$> expandWith set name members context particle
  | .element id => by
      simp only [expandWith, map_bind, map_pure]
      rfl
  | .model type occurs particles => by
      rw [expandWith, expandWith, ← ParticleContext.within_merge]
      exact expandAllWith_merge (context.within type occurs) outer particles
  | .group use occurs => by
      simp only [expandWith, map_bind, map_pure, List.map_map, ← ParticleContext.within_merge]
      congr
      funext id
      congr
      funext found
      congr
      funext member
      exact (member.within_within _ outer).symm

theorem expandAllWith_merge (context outer : ParticleContext) : (particles : List Particle) →
    expandAllWith set name members (context.merge outer) particles =
      List.map (Member.within outer) <$> expandAllWith set name members context particles
  | [] => by
      simp only [expandAllWith, map_pure, List.map_nil]
  | particle :: rest => by
      simp only [expandAllWith, map_bind, map_pure, List.map_append,
        expandWith_merge context outer particle, expandAllWith_merge context outer rest,
        bind_map_left]

end

/-- A sequence that occurs once adds nothing to what encloses it. -/
theorem expandWith_once (context : ParticleContext) (particle : Particle) :
    expandWith set name members context (.model .sequence .once [particle]) =
      expandWith set name members context particle := by
  have hsame : context.within .sequence .once = context := by
    have hsequence : (ModelType.sequence == ModelType.choice) = false := rfl
    simp [ParticleContext.within, Occurs.isRepeated, Occurs.isEmptiable, Occurs.once, hsequence]
  rw [expandWith, hsame]
  simp only [expandAllWith, pure_bind, List.append_nil, bind_pure]

theorem expandItems_eq (attributes : AttributeGroupId → m (List AttributeId))
    (items : List AttributeItem) :
    expandItems set attributes items =
      List.flatten <$> items.mapM (attributesAt set attributes) := by
  induction items with
  | nil => simp only [expandItems, List.mapM_nil, map_pure, List.flatten_nil]
  | cons item rest ih =>
      simp only [expandItems, ih, List.mapM_cons, map_bind, map_pure, List.flatten_cons,
        bind_map_left]

end Rules

/-! Memos. -/

/-- A memo as it is when a component is asked for: it is sound, and all that is open needs the
component. -/
structure Memo.Before {set : SchemaSet} {kind : SymbolKind} {α : Type} (memo : Memo)
    (rule : Rule set kind α) (trail : Trail kind) (id : Id kind) : Prop where
  sound : memo.Sound set
  leads : rule.Leads (trail.ids memo) id

namespace Memo.Before

variable {set : SchemaSet} {kind : SymbolKind} {α : Type} {memo : Memo} {rule : Rule set kind α}
  {trail : Trail kind} {id next : Id kind}

theorem of_settled (hmemo : memo.Settled set) (hnone : trail.view {} = []) :
    memo.Before rule trail id where
  sound := hmemo.1
  leads := by
    rw [Trail.ids, hmemo.2, hnone]
    exact Rule.leads_nil id

theorem tail (h : memo.Before rule trail id) (hneeds : rule.Needs id next) :
    memo.Before rule trail next :=
  ⟨h.sound, h.leads.tail hneeds⟩

theorem push (h : memo.Before rule trail id) (htrail : trail.Lawful)
    (hneeds : rule.Needs id next) : (trail.push id memo).Before rule trail next where
  sound := h.sound.unfinished _
  leads := by
    rw [Trail.ids, Trail.push, htrail.view_update]
    exact h.leads.cons hneeds

end Memo.Before

namespace Resolving

variable {set : SchemaSet}

theorem result_of_sound {α : Type} {memo : Memo} (hmemo : memo.Sound set) {work : Resolving α}
    {answer : Except Error α} (h : Agrees set memo.unfinished work answer) :
    work.result memo = answer := by
  obtain ⟨next, _, _, heq⟩ := h memo hmemo rfl
  rw [result, heq]
  cases answer <;> rfl

variable {unfinished : Unfinished}

theorem agrees_expandGroup_of_leads {id : GroupId}
    (hleads : set.membersRule.Leads unfinished.groups id) :
    Agrees set unfinished (expandGroup set id)
      (set.membersRule.answerFrom unfinished.groups id) := by
  have hlevels := Nat.lt_succ_of_le (set.unlisted_le unfinished.groups)
  refine @agrees_settleWithin _ _ _ _ _ _ (Shelf.keeps_groups set) Trail.lawful_groups _
    (fun _ => True) (fun _ _ _ => trivial) ?_ _ _ id trivial hlevels hleads
  intro others ask answer id _ hask
  exact Rules.follows_members set (agreement set others) (agrees_elementName set others) hask

theorem agrees_expandAttributeGroup_of_leads {id : AttributeGroupId}
    (hleads : set.attributesRule.Leads unfinished.attributeGroups id) :
    Agrees set unfinished (expandAttributeGroup set id)
      (set.attributesRule.answerFrom unfinished.attributeGroups id) := by
  have hlevels := Nat.lt_succ_of_le (set.unlisted_le unfinished.attributeGroups)
  refine @agrees_settleWithin _ _ _ _ _ _ (Shelf.keeps_attributeGroups set)
    Trail.lawful_attributeGroups _ (fun _ => True) (fun _ _ _ => trivial) ?_ _ _ id trivial hlevels
    hleads
  intro others ask answer id _ hask
  exact Rules.follows_attributes set (agreement set others) hask

variable (set)

def expandParticle (context : ParticleContext) (particle : Particle) : Resolving (List Member) :=
  Rules.expandWith set (answers set).elementName (answers set).members context particle

def expandAttributes (items : List AttributeItem) : Resolving (List AttributeId) :=
  Rules.expandItems set (answers set).attributes items

variable {set}

theorem result_expandParticle {memo : Memo} {particle : Particle} (hmemo : memo.Sound set)
    (hbefore : ∀ use ∈ particle.uses, ∀ next, set.resolve .group use.name use.span = .ok next →
      memo.Before set.membersRule .groups next) (context : ParticleContext) :
    (expandParticle set context particle).result memo =
      Rules.expandWith set set.elementName (set.membersRule.answerFrom memo.unfinished.groups)
        context particle := by
  apply result_of_sound hmemo
  refine Rules.follows_expandWith set (agreement set _) (agrees_elementName set _) context
    particle ?_
  intro use huse next hnext
  exact agrees_expandGroup_of_leads (hbefore use huse next hnext).leads

theorem result_expandAttributes {memo : Memo} {items : List AttributeItem}
    (hmemo : memo.Sound set)
    (hbefore : ∀ use next, .group use ∈ items →
      set.resolve .attributeGroup use.name use.span = .ok next →
        memo.Before set.attributesRule .attributeGroups next) :
    (expandAttributes set items).result memo =
      Rules.expandItems set (set.attributesRule.answerFrom memo.unfinished.attributeGroups)
        items := by
  apply result_of_sound hmemo
  refine Rules.follows_expandItems set (agreement set _) ?_
  intro use next huse hnext
  exact agrees_expandAttributeGroup_of_leads (hbefore use next huse hnext).leads

theorem result_expandParticle_group {use : GroupUse} {id : GroupId} {found : List Member}
    (hresolve : set.resolve .group use.name use.span = .ok id)
    (hfound : set.membersRule.answer id = .ok found) {memo : Memo}
    (hmemo : memo.Before set.membersRule .groups id) (context : ParticleContext)
    (occurs : Occurs) :
    (expandParticle set context (.group use occurs)).result memo =
      .ok (found.map (Member.within (context.within .sequence occurs))) := by
  have hbefore : ∀ other ∈ (Particle.group use occurs).uses, ∀ next,
      set.resolve .group other.name other.span = .ok next →
        memo.Before set.membersRule .groups next := by
    intro other hother next hnext
    cases List.mem_singleton.mp hother
    cases hresolve.symm.trans hnext
    exact hmemo
  rw [result_expandParticle hmemo.sound hbefore, Rules.expandWith, given_eq, hresolve]
  have hanswer : set.membersRule.answerFrom memo.unfinished.groups id = .ok found :=
    Rule.answerFrom_of_leads hfound hmemo.leads
  simp only [bind, Except.bind, hanswer, pure, Except.pure]

/-- What the group holds, written in the place of the reference. -/
theorem result_expandParticle_sequence {id : GroupId} {definition : GroupDef}
    {found : List Member} (hdefinition : set.groupDef id = .ok definition)
    (hfound : set.membersRule.answer id = .ok found) {memo : Memo}
    (hmemo : memo.Before set.membersRule .groups id) (context : ParticleContext)
    (occurs : Occurs) :
    (expandParticle set context (.model .sequence occurs definition.particle.toList)).result memo =
      .ok (found.map (Member.within (context.within .sequence occurs))) := by
  have happly := Rule.apply_answer hfound
  change Rules.members set set.elementName set.membersRule.answer id = _ at happly
  simp only [Rules.members, given_eq, hdefinition, bind_eq_ok_iff, Except.ok.injEq] at happly
  obtain ⟨_, rfl, hmembers⟩ := happly
  cases hparticle : definition.particle with
  | none =>
      rw [hparticle] at hmembers
      cases hmembers
      rw [result_expandParticle hmemo.sound (by simp [Particle.uses, Particle.usesAll])]
      simp [Rules.expandWith, Rules.expandAllWith]
      rfl
  | some particle =>
      rw [hparticle] at hmembers
      have hneeds : ∀ use ∈ particle.uses, ∀ next,
          set.resolve .group use.name use.span = .ok next → set.MembersNeed id next :=
        fun use huse next hnext => ⟨definition, particle, use, hdefinition, hparticle, huse, hnext⟩
      have hsame : Rules.expandWith set set.elementName
          (set.membersRule.answerFrom memo.unfinished.groups) {} particle = .ok found := by
        rw [← hmembers]
        apply Rules.follows_expandWith set Simulation.identity (fun _ => rfl) {} particle
        intro use huse next hnext
        obtain ⟨other, hother⟩ := Rules.expandWith_needed particle hmembers use huse hnext
        rw [hother]
        exact Rule.answerFrom_of_leads hother (hmemo.tail (hneeds use huse next hnext)).leads
      have huses : (Particle.model .sequence occurs [particle]).uses = particle.uses := by
        simp [Particle.uses, Particle.usesAll]
      rw [Option.toList_some, result_expandParticle hmemo.sound (by
        rw [huses]
        intro use huse next hnext
        exact hmemo.tail (hneeds use huse next hnext)), Rules.expandWith]
      have hinner := Rules.expandWith_merge set set.elementName
        (set.membersRule.answerFrom memo.unfinished.groups) {}
        (context.within .sequence occurs) particle
      rw [ParticleContext.default_merge, hsame] at hinner
      simp only [Rules.expandAllWith, hinner]
      simp only [Functor.map, Except.map, bind, Except.bind, pure, Except.pure, List.append_nil]

theorem result_expandAttributes_eq {memo : Memo} {items : List AttributeItem}
    (hmemo : memo.Sound set)
    (hbefore : ∀ use next, .group use ∈ items →
      set.resolve .attributeGroup use.name use.span = .ok next →
        memo.Before set.attributesRule .attributeGroups next) :
    (expandAttributes set items).result memo =
      List.flatten <$> items.mapM
        (Rules.attributesAt set fun id => (expandAttributeGroup set id).result memo) := by
  rw [result_expandAttributes hmemo hbefore, ← Rules.expandItems_eq]
  apply Rules.follows_expandItems set Simulation.identity
  intro use next huse hnext
  exact (result_of_sound hmemo (agrees_expandAttributeGroup_of_leads
    (hbefore use next huse hnext).leads)).symm

variable (set) in
/-- An attribute stands for itself, and a group for what is answered for it from a memo. -/
inductive ItemGives (memo : Memo) : AttributeItem → List AttributeId → Prop
  | «attribute» (id : AttributeId) : ItemGives memo (.attribute id) [id]
  | group {use : GroupUse} {id : AttributeGroupId} {ids : List AttributeId} :
      set.lookup? .attributeGroup use.name use.span.document = some id →
        (expandAttributeGroup set id).result memo = .ok ids → ItemGives memo (.group use) ids

theorem attributesAt_eq_ok_iff {memo : Memo} {item : AttributeItem} {ids : List AttributeId} :
    Rules.attributesAt set (fun id => (expandAttributeGroup set id).result memo) item = .ok ids ↔
      ItemGives set memo item ids := by
  cases item with
  | «attribute» id =>
      constructor
      · rintro ⟨⟩
        exact .attribute id
      · rintro ⟨⟩
        rfl
  | group use =>
      simp only [Rules.attributesAt, given_eq, bind_eq_ok_iff, SchemaSet.resolve_eq_ok_iff]
      constructor
      · rintro ⟨id, hid, hids⟩
        exact .group hid hids
      · rintro (_ | ⟨hid, hids⟩)
        exact ⟨_, hid, hids⟩

/-- An attribute group gives what the list in its definition gives. -/
theorem result_expandAttributeGroup_iff {id : AttributeGroupId} {definition : AttributeGroupDef}
    (hdefinition : set.attributeGroupDef id = .ok definition) {memo other : Memo}
    (hmemo : memo.Before set.attributesRule .attributeGroups id)
    (hother : other.Before set.attributesRule .attributeGroups id) {ids : List AttributeId} :
    (expandAttributeGroup set id).result memo = .ok ids ↔
      (expandAttributes set definition.attributes).result other = .ok ids := by
  have hbefore : ∀ use next, .group use ∈ definition.attributes →
      set.resolve .attributeGroup use.name use.span = .ok next →
        other.Before set.attributesRule .attributeGroups next :=
    fun use next huse hnext => hother.tail ⟨definition, use, hdefinition, huse, hnext⟩
  have happly : ∀ attributes, set.attributesRule.apply attributes id =
      Rules.expandItems set attributes definition.attributes := by
    intro attributes
    change Rules.attributes set attributes id = _
    rw [Rules.attributes, given_eq, hdefinition]
    rfl
  rw [result_of_sound hmemo.sound (agrees_expandAttributeGroup_of_leads hmemo.leads),
    result_expandAttributes hother.sound hbefore]
  constructor
  · intro h
    have hanswer := Rule.answer_of_answerFrom h
    rw [← happly, ← Rule.apply_answer hanswer]
    apply set.attributesRule.congr
    intro next hneeds
    obtain ⟨found, hfound⟩ := set.attributesRule.needed (Rule.apply_answer hanswer) next hneeds
    rw [hfound]
    exact Rule.answerFrom_of_leads hfound (hother.tail hneeds).leads
  · intro h
    rw [← happly] at h
    apply Rule.answerFrom_of_leads _ hmemo.leads
    apply Rule.answer_of_apply
    rw [← h]
    apply set.attributesRule.congr
    intro next hneeds
    obtain ⟨found, hfound⟩ := set.attributesRule.needed h next hneeds
    rw [hfound]
    exact Rule.answer_of_answerFrom hfound

end Resolving

/-- References to groups mean what the groups hold. -/
structure SchemaSet.Inlines (set : SchemaSet) : Prop where
  /-- A memo that questions have left is one to ask for any group. -/
  outside : ∀ {memo : Memo}, memo.Reachable set →
    (∀ id, memo.Before set.membersRule .groups id) ∧
      ∀ id, memo.Before set.attributesRule .attributeGroups id
  /-- So is the one with which a group asks for those that it refers to. -/
  inside : (∀ {memo : Memo} {id next : GroupId}, memo.Before set.membersRule .groups id →
      set.membersRule.Needs id next →
        (Trail.groups.push id memo).Before set.membersRule .groups next) ∧
    ∀ {memo : Memo} {id next : AttributeGroupId},
      memo.Before set.attributesRule .attributeGroups id → set.attributesRule.Needs id next →
        (Trail.attributeGroups.push id memo).Before set.attributesRule .attributeGroups next
  /-- A reference to a group that was written out once stands for a sequence of its particle. -/
  reference : ∀ {use : GroupUse} {id : GroupId} {definition : GroupDef} {found : List Member}
    {memo first second : Memo}, set.resolve .group use.name use.span = .ok id →
      set.groupDef id = .ok definition → memo.Before set.membersRule .groups id →
      (Resolving.expandGroup set id).result memo = .ok found →
      first.Before set.membersRule .groups id → second.Before set.membersRule .groups id →
      ∀ context occurs,
        (Resolving.expandParticle set context (.group use occurs)).result first =
            (Resolving.expandParticle set context
              (.model .sequence occurs definition.particle.toList)).result second ∧
          (Resolving.expandParticle set context (.group use occurs)).result first =
            .ok (found.map (Member.within (context.within .sequence occurs)))
  /-- Names in a group are resolved in the document that the group is written in. -/
  home : ∀ {id : GroupId} {definition : GroupDef}, set.groupDef id = .ok definition →
    ∀ next, ReflTransGen set.Mentions ⟨.group, id⟩ next →
      set.WrittenIn next definition.span.document
  context : ∀ context particle, Resolving.expandParticle set context particle =
    List.map (Member.within context) <$> Resolving.expandParticle set {} particle
  once : ∀ context particle,
    Resolving.expandParticle set context (.model .sequence .once [particle]) =
      Resolving.expandParticle set context particle
  items : ∀ {items : List AttributeItem} {memo : Memo}, memo.Sound set →
    (∀ use next, .group use ∈ items →
      set.resolve .attributeGroup use.name use.span = .ok next →
        memo.Before set.attributesRule .attributeGroups next) →
    (Resolving.expandAttributes set items).result memo =
      List.flatten <$> items.mapM (Rules.attributesAt set fun id =>
        (Resolving.expandAttributeGroup set id).result memo)
  in_order : ∀ {items : List AttributeItem} {memo : Memo}, memo.Sound set →
    (∀ use next, .group use ∈ items →
      set.resolve .attributeGroup use.name use.span = .ok next →
        memo.Before set.attributesRule .attributeGroups next) →
    ∀ ids, (Resolving.expandAttributes set items).result memo = .ok ids ↔
      ∃ parts, List.Forall₂ (Resolving.ItemGives set memo) items parts ∧ ids = parts.flatten
  attributeGroup : ∀ {id : AttributeGroupId} {definition : AttributeGroupDef}
    {memo other : Memo} {ids : List AttributeId}, set.attributeGroupDef id = .ok definition →
      memo.Before set.attributesRule .attributeGroups id →
      other.Before set.attributesRule .attributeGroups id →
      ((Resolving.expandAttributeGroup set id).result memo = .ok ids ↔
        (Resolving.expandAttributes set definition.attributes).result other = .ok ids)

/-- In a loaded set groups are written out in the place of references to them. -/
theorem SchemaSet.inlines_of_load {tree : FileTree} {roots : List Path} {limits : Limits}
    {permissive : Bool} {set : SchemaSet} (hset : load tree roots limits permissive = .ok set) :
    set.Inlines where
  outside hmemo := ⟨fun _ => .of_settled hmemo.settled rfl, fun _ => .of_settled hmemo.settled rfl⟩
  inside := ⟨fun h hneeds => h.push Trail.lawful_groups hneeds,
    fun h hneeds => h.push Trail.lawful_attributeGroups hneeds⟩
  reference {use id definition found memo first second} hresolve hdefinition hmemo hresult hfirst
      hsecond context occurs := by
    rw [Resolving.result_of_sound hmemo.sound
      (Resolving.agrees_expandGroup_of_leads hmemo.leads)] at hresult
    have hfound := Rule.answer_of_answerFrom hresult
    rw [Resolving.result_expandParticle_group hresolve hfound hfirst context occurs,
      Resolving.result_expandParticle_sequence hdefinition hfound hsecond context occurs]
    exact ⟨rfl, rfl⟩
  home {id definition} hdefinition next hreach := by
    have hcomponent : set.model.component? id = some definition := by
      unfold groupDef at hdefinition
      split at hdefinition
      case h_1 found hfound =>
          cases hdefinition
          exact hfound
      case h_2 => cases hdefinition
    have hdocument : definition.span.document ∈ (GroupDef.mentions definition).documents :=
      List.mem_append_right _ List.mem_cons_self
    exact writtenIn_of_load hset hcomponent hdocument hreach
  context context particle := by
    have h := Rules.expandWith_merge set (Resolving.answers set).elementName
      (Resolving.answers set).members {} context particle
    rw [ParticleContext.default_merge] at h
    exact h
  once context particle := Rules.expandWith_once set _ _ context particle
  items := Resolving.result_expandAttributes_eq
  in_order hmemo hbefore ids := by
    rw [Resolving.result_expandAttributes_eq hmemo hbefore]
    simp only [map_eq_ok_iff, mapM_eq_ok_iff, Resolving.attributesAt_eq_ok_iff]
  attributeGroup hdefinition hmemo hother :=
    Resolving.result_expandAttributeGroup_iff hdefinition hmemo hother

/-! Groups and attribute groups inside others, used again after they were written out. -/

namespace Reused

def text : String :=
  "<xs:schema xmlns:xs=\"http://www.w3.org/2001/XMLSchema\">" ++
    "<xs:group name=\"part\"><xs:sequence><xs:element name=\"a\"/></xs:sequence></xs:group>" ++
    "<xs:group name=\"whole\"><xs:choice><xs:group ref=\"part\" maxOccurs=\"2\"/>" ++
    "<xs:element name=\"b\"/></xs:choice></xs:group>" ++
    "<xs:attributeGroup name=\"few\"><xs:attribute name=\"x\"/></xs:attributeGroup>" ++
    "<xs:attributeGroup name=\"all\"><xs:attributeGroup ref=\"few\"/><xs:attribute name=\"y\"/>" ++
    "</xs:attributeGroup></xs:schema>"

def tree : FileTree :=
  ⟨[(⟨.above 0, ["a.xsd"]⟩, .file (.text text))]⟩

def root : Path := ⟨"a.xsd"⟩

def part : GroupId := ⟨0⟩

def whole : GroupId := ⟨1⟩

def few : AttributeGroupId := ⟨0⟩

def all : AttributeGroupId := ⟨1⟩

def use (name : String) (start stop : Nat) : GroupUse :=
  ⟨⟨none, name⟩, ⟨⟨0⟩, start, stop⟩⟩

def usePart : GroupUse := use "part" 171 207

def useFew : GroupUse := use "few" 356 386

def choice : Particle :=
  .model .choice .once [.group usePart ⟨1, some 2⟩, .element ⟨1⟩]

def choiceOf? : Option Particle → Option (Occurs × GroupUse × Occurs × ElementId)
  | some (.model .choice occurs [.group use often, .element id]) => some (occurs, use, often, id)
  | _ => none

def a (context : ParticleContext) : Member :=
  ⟨"A", .declaredElement ⟨0⟩ context⟩

def b (context : ParticleContext) : Member :=
  ⟨"B", .declaredElement ⟨1⟩ context⟩

def history : List Query :=
  [.group whole, .attributeGroup all]

def Known (set : SchemaSet) : Prop :=
  (set.document? ⟨0⟩).map SchemaDocument.links = some [] ∧
    set.declaredIn? .group ⟨none, "part"⟩ ⟨0⟩ = some part ∧
    set.declaredIn? .group ⟨none, "whole"⟩ ⟨0⟩ = some whole ∧
    set.declaredIn? .attributeGroup ⟨none, "few"⟩ ⟨0⟩ = some few ∧
    set.declaredIn? .attributeGroup ⟨none, "all"⟩ ⟨0⟩ = some all ∧
    (set.groupDef whole).toOption.map (fun definition => choiceOf? definition.particle) =
      some (some (.once, usePart, ⟨1, some 2⟩, ⟨1⟩)) ∧
    (set.attributeGroupDef all).toOption.map AttributeGroupDef.attributes =
      some [.group useFew, .attribute ⟨1⟩] ∧
    (set.answers.members part).toOption = some [a {}] ∧
    (set.nameOf .element ⟨1⟩).toOption = some "b" ∧
    (set.answers.attributes few).toOption = some [⟨0⟩]

instance : DecidablePred Known := fun _ =>
  inferInstanceAs (Decidable (_ ∧ _))

theorem exists_load : ∃ set, SchemaSet.load tree [root] .strict false = .ok set ∧ Known set := by
  refine SchemaSet.exists_load_single ?_ ?_ ?_ <;> decide +kernel

theorem eq_choice {particle : Option Particle}
    (h : choiceOf? particle = some (.once, usePart, ⟨1, some 2⟩, ⟨1⟩)) :
    particle = some choice := by
  unfold choiceOf? at h
  split at h
  case h_1 => cases h; rfl
  case h_2 => cases h

namespace Known

variable {set : SchemaSet} (h : Known set)

include h

theorem lookup?_eq {kind : SymbolKind} {name : String} {id : Id kind}
    (hid : set.declaredIn? kind ⟨none, name⟩ ⟨0⟩ = some id) :
    set.lookup? kind ⟨none, name⟩ ⟨0⟩ = some id := by
  obtain ⟨document, hdocument, hlinks⟩ := Option.map_eq_some_iff.mp h.1
  rw [SchemaSet.lookup?_of_links_nil hdocument hlinks, hid]

theorem exists_whole : ∃ definition, set.groupDef whole = .ok definition ∧
    definition.particle = some choice := by
  obtain ⟨_, _, _, _, _, hwhole, _⟩ := h
  obtain ⟨definition, hdefinition, hchoice⟩ := Option.map_eq_some_iff.mp hwhole
  exact ⟨definition, eq_ok_of_toOption hdefinition, eq_choice hchoice⟩

theorem members_whole :
    set.membersRule.answer whole = .ok [a ⟨true, true⟩, b ⟨false, true⟩] := by
  obtain ⟨definition, hdefinition, hparticle⟩ := exists_whole h
  have hpart : set.resolve .group usePart.name usePart.span = .ok part :=
    SchemaSet.resolve_eq_ok_iff.mpr (lookup?_eq h h.2.1)
  obtain ⟨_, _, _, _, _, _, _, hmembers, hname, _⟩ := h
  have hmembers : set.membersRule.answer part = .ok [a {}] := eq_ok_of_toOption hmembers
  have hname : set.elementName ⟨1⟩ = .ok "b" := eq_ok_of_toOption hname
  apply Rule.answer_of_apply
  change Rules.members set set.elementName set.membersRule.answer whole = _
  simp only [Rules.members, given_eq, hdefinition, bind_eq_ok_iff, Except.ok.injEq,
    exists_eq_left', hparticle, choice, Rules.expandWith, Rules.expandAllWith, hpart, hmembers,
    hname]
  refine ⟨_, rfl, _, ⟨_, rfl, _, rfl, rfl⟩, ?_⟩
  have hexported : Identifier.exported "b" = "B" := by decide +kernel
  rw [hexported]
  rfl

theorem attributes_all {memo : Memo} (hmemo : memo.Reachable set) (hinlines : set.Inlines) :
    (Resolving.expandAttributeGroup set all).result memo = .ok [⟨0⟩, ⟨1⟩] := by
  have hbefore := (hinlines.outside hmemo).2
  have hfew : set.lookup? .attributeGroup useFew.name useFew.span.document = some few :=
    lookup?_eq h h.2.2.2.1
  obtain ⟨_, _, _, _, _, _, hall, _, _, hanswer⟩ := h
  obtain ⟨definition, hdefinition, hitems⟩ := Option.map_eq_some_iff.mp hall
  have hinner : (Resolving.expandAttributeGroup set few).result memo = .ok [⟨0⟩] :=
    (Resolving.result_of_agrees hmemo.settled (Resolving.agrees_expandAttributeGroup rfl few)).trans
      (eq_ok_of_toOption hanswer)
  refine (hinlines.attributeGroup (eq_ok_of_toOption hdefinition) (hbefore all)
    (hbefore all)).mpr ?_
  rw [hitems]
  refine (hinlines.in_order hmemo.settled.1 (fun _ next _ _ => hbefore next) _).mpr ?_
  exact ⟨[[⟨0⟩], [⟨1⟩]], .cons (.group hfew hinner) (.cons (.attribute ⟨1⟩) .nil), rfl⟩

end Known

end Reused

open Reused

/-- What was written out before stands again for a sequence of what it holds. -/
theorem SchemaSet.inlines_reused :
    ∃ set definition, load tree [root] .strict false = .ok set ∧ set.Inlines ∧
      set.groupDef whole = .ok definition ∧ definition.particle = some choice ∧
      (Resolving.expandGroup set whole).result (Memo.after set history) =
        .ok [a ⟨true, true⟩, b ⟨false, true⟩] ∧
      (Resolving.expandParticle set {} (.group (use "whole" 0 0) ⟨0, none⟩)).result
          (Memo.after set history) =
        (Resolving.expandParticle set {} (.model .sequence ⟨0, none⟩ [choice])).result {} ∧
      (Resolving.expandParticle set {} (.group (use "whole" 0 0) ⟨0, none⟩)).result
          (Memo.after set history) = .ok [a ⟨true, true⟩, b ⟨true, true⟩] ∧
      (Resolving.expandAttributes set [.attribute ⟨1⟩, .group (use "all" 0 0)]).result
          (Memo.after set history) = .ok [⟨1⟩, ⟨0⟩, ⟨1⟩] := by
  obtain ⟨set, hload, hknown⟩ := exists_load
  have hinlines := inlines_of_load hload
  have hmemo : (Memo.after set history).Reachable set := .asked _ (.asked _ .empty)
  obtain ⟨hbefore, hbefore'⟩ := hinlines.outside hmemo
  have hempty : Memo.Reachable set {} := .empty
  obtain ⟨hfresh, _⟩ := hinlines.outside hempty
  obtain ⟨definition, hdefinition, hparticle⟩ := hknown.exists_whole
  have hwhole : (Resolving.expandGroup set whole).result (Memo.after set history) =
      .ok [a ⟨true, true⟩, b ⟨false, true⟩] :=
    (Resolving.result_of_agrees hmemo.settled (Resolving.agrees_expandGroup rfl whole)).trans
      hknown.members_whole
  have hresolve : set.resolve .group (use "whole" 0 0).name (use "whole" 0 0).span = .ok whole :=
    resolve_eq_ok_iff.mpr (hknown.lookup?_eq hknown.2.2.1)
  obtain ⟨hsame, hvalue⟩ := hinlines.reference hresolve hdefinition (hbefore whole) hwhole
    (hbefore whole) (hfresh whole) {} ⟨0, none⟩
  rw [hparticle, Option.toList_some] at hsame
  have hall : set.lookup? .attributeGroup (use "all" 0 0).name (use "all" 0 0).span.document =
      some all :=
    hknown.lookup?_eq hknown.2.2.2.2.1
  refine ⟨set, definition, hload, hinlines, hdefinition, hparticle, hwhole, hsame, hvalue, ?_⟩
  refine (hinlines.in_order hmemo.settled.1 (fun _ next _ _ => hbefore' next) _).mpr ?_
  exact ⟨[[⟨1⟩], [⟨0⟩, ⟨1⟩]],
    .cons (.attribute ⟨1⟩) (.cons (.group hall (hknown.attributes_all hmemo hinlines)) .nil), rfl⟩

end SchemaBinding
