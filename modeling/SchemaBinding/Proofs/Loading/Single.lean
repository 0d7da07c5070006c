import SchemaBinding.Proofs.Report

namespace SchemaBinding

theorem Text.toList_append_eq {first second : String} {chars more : List Char}
    (h : first.toList = chars) (h' : second.toList = more) :
    (first ++ second).toList = chars ++ more := by
  rw [String.toList_append, h, h']

namespace Xml

def rootOf (chars : List Char) : Except Fault Element :=
  match Scan.tokens (String.utf8Len chars) ⟨chars, String.utf8Len chars⟩ with
  | .ok tokens _ => Forest.rootOf tokens
  | .error fault _ => .error fault

theorem readRoot_ofList (chars : List Char) : readRoot (String.ofList chars) = rootOf chars := by
  rw [readRoot, tokensOf, String.toList_ofList, String.utf8ByteSize_ofList, rootOf]
  cases Scan.tokens (String.utf8Len chars) ⟨chars, String.utf8Len chars⟩ <;> rfl

end Xml

namespace Loading

/-- What is loaded when a document is the first one. -/
def alone (document : Xml.Document) (path : Path) (permissive : Bool) : Except Error Loading := do
  let (schema, model) ← Schema.read document ⟨0⟩ path.text permissive {}
  let added : SchemaSet :=
    { documents := #[⟨path, document, schema, [], []⟩], model := model }
  return ⟨added.link none ⟨0⟩, schema.directives.filterMap (request? path.directory ⟨0⟩)⟩

def aloneOf? (limits : Limits) (permissive : Bool) (path : Path) (text : String)
    (chars : List Char) : Option Loading := do
  let root ← (Xml.rootOf chars).toOption
  (root.checkDepth limits 0).toOption
  (alone ⟨text, root⟩ path permissive).toOption

theorem parse_of_aloneOf? {limits : Limits} {permissive : Bool} {path : Path} {text : String}
    {chars : List Char} {next : Loading} (htext : text.toList = chars)
    (h : aloneOf? limits permissive path text chars = some next) :
    ∃ document, Xml.Document.parse text limits = .ok document ∧
      alone document path permissive = .ok next := by
  obtain ⟨root, hroot, h⟩ := Option.bind_eq_some_iff.mp h
  obtain ⟨_, hdepth, hnext⟩ := Option.bind_eq_some_iff.mp h
  obtain rfl : String.ofList chars = text := by
    rw [← htext, String.ofList_toList]
  refine ⟨⟨String.ofList chars, root⟩, ?_, eq_ok_of_toOption hnext⟩
  rw [Xml.Document.parse, Xml.readRoot_ofList, eq_ok_of_toOption hroot]
  exact bind_eq_ok_iff.mpr ⟨(), eq_ok_of_toOption hdepth, rfl⟩

theorem supply_of_aloneOf? {limits : Limits} {permissive : Bool} {path : Path} {text : String}
    {chars : List Char} {next : Loading} (htext : text.toList = chars)
    (hroom : 1 ≤ limits.documents) (hsize : String.utf8Len chars ≤ limits.size)
    (h : aloneOf? limits permissive path text chars = some next) :
    supply ⟨{}, []⟩ limits permissive ⟨.file path, none⟩ (.ok text) = .ok next := by
  obtain ⟨document, hparse, hnext⟩ := parse_of_aloneOf? htext h
  simp only [alone, bind_eq_ok_iff] at hnext
  obtain ⟨⟨schema, model⟩, hread, heq⟩ := hnext
  have hbytes : text.utf8ByteSize ≤ limits.size := by
    rw [← String.ofList_toList (s := text), htext, String.utf8ByteSize_ofList]
    exact hsize
  have haccept : Location.accept limits (.ok text) (.file path) = .ok text := by
    rw [Location.accept, Limits.checkSize, if_pos hbytes]
    rfl
  simp only [supply, Loading.load, bind_eq_ok_iff]
  refine ⟨(), if_pos hroom, _, haccept, ⟨_, _⟩, ⟨_, hparse, (schema, model), hread, rfl⟩, ?_⟩
  exact heq

/-- What can be checked of a document that is the first one, holds of what its text is read to. -/
theorem exists_alone {limits : Limits} {permissive : Bool} {text : String} {chars : List Char}
    {Known : SchemaSet → Prop} [DecidablePred Known]
    (h : ((aloneOf? limits permissive ⟨"a.xsd"⟩ text chars).map fun next =>
      decide (Known next.set)) = some true)
    (htext : text.toList = chars := by
      repeat' apply Text.toList_append_eq
      all_goals exact String.toList_ofList) :
    ∃ document next, Xml.Document.parse text limits = .ok document ∧
      alone document ⟨"a.xsd"⟩ permissive = .ok next ∧ Known next.set := by
  obtain ⟨next, hnext, hknown⟩ := Option.map_eq_some_iff.mp h
  obtain ⟨document, hparse, halone⟩ := parse_of_aloneOf? htext hnext
  exact ⟨document, next, hparse, halone, of_decide_eq_true hknown⟩

end Loading

theorem SchemaSet.exists_load_single {limits : Limits} {permissive : Bool} {text : String}
    {chars : List Char} {Known : SchemaSet → Prop} [DecidablePred Known]
    (hroom : 1 ≤ limits.documents) (hsize : String.utf8Len chars ≤ limits.size)
    (h : ((Loading.aloneOf? limits permissive ⟨"a.xsd"⟩ text chars).map fun next =>
      decide (next.pending = [] ∧ Known next.set)) = some true)
    (htext : text.toList = chars := by
      repeat' apply Text.toList_append_eq
      all_goals exact String.toList_ofList) :
    ∃ set, load ⟨[(⟨.above 0, ["a.xsd"]⟩, .file (.text text))]⟩ [⟨"a.xsd"⟩] limits permissive =
      .ok set ∧ Known set := by
  obtain ⟨next, hnext, hknown⟩ := Option.map_eq_some_iff.mp h
  obtain ⟨hpending, hknown⟩ := of_decide_eq_true hknown
  have hsupply := Loading.supply_of_aloneOf? htext hroom hsize hnext
  exact ⟨next.set, load_of_supply (Location.readFrom_single text) hsupply hpending, hknown⟩

end SchemaBinding
