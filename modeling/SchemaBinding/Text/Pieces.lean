namespace SchemaBinding.Text

/-- The lines of a text. A final line feed ends the last line and begins none. -/
def lines (text : String) : List String :=
  let pieces := text.toList.splitOnP (· == '\n')
  (if pieces.getLast? = some [] then pieces.dropLast else pieces).map String.ofList

def cutFirst (mark : Char) (text : List Char) : Option (List Char × List Char) :=
  match text.dropWhile (· != mark) with
  | [] => none
  | _ :: after => some (text.takeWhile (· != mark), after)

def cutLast (mark : Char) (text : List Char) : Option (List Char × List Char) :=
  (cutFirst mark text.reverse).map fun (after, before) => (before.reverse, after.reverse)

def dropEnd (mark : Char) (text : List Char) : List Char :=
  (text.reverse.dropWhile (· == mark)).reverse

def byteCount (text : List Char) : Nat :=
  text.foldl (fun count c => count + c.utf8Size) 0

def dropBytes : Nat → List Char → List Char
  | 0, text => text
  | _ + 1, [] => []
  | count + 1, c :: rest => dropBytes (count + 1 - c.utf8Size) rest

/-- The characters of the next `count` bytes, after those already taken, newest first. -/
def takeBytes (taken : List Char) : Nat → List Char → List Char
  | 0, _ => taken.reverse
  | _ + 1, [] => taken.reverse
  | count + 1, c :: rest => takeBytes (c :: taken) (count + 1 - c.utf8Size) rest

/-- The text from byte `start` up to byte `stop`. -/
def slice (text : String) (start stop : Nat) : String :=
  String.ofList (takeBytes [] (stop - start) (dropBytes start text.toList))

/-- Pieces of a text with `between` standing between neighbours. -/
def joinWith (between : String) : List String → String
  | [] => ""
  | [piece] => piece
  | piece :: next :: rest => piece ++ between ++ joinWith between (next :: rest)

theorem cutFirst_eq_some_iff {mark : Char} {text before after : List Char} :
    cutFirst mark text = some (before, after) ↔
      text = before ++ mark :: after ∧ mark ∉ before := by
  constructor
  · intro h
    unfold cutFirst at h
    split at h
    case h_1 => cases h
    case h_2 c rest hdrop =>
        cases h
        have hmark : c = mark := by
          have hhead := List.head?_dropWhile_not (· != mark) text
          rw [hdrop] at hhead
          simpa using hhead
        constructor
        · rw [← hmark, ← hdrop, hmark, List.takeWhile_append_dropWhile]
        · intro hmem
          have hall := List.all_eq_true.mp (@List.all_takeWhile _ (· != mark) text) mark hmem
          simp at hall
  · rintro ⟨rfl, hmark⟩
    have hbefore : ∀ c ∈ before, (c != mark) = true := by
      intro c hc
      rw [bne_iff_ne]
      rintro rfl
      exact hmark hc
    rw [cutFirst, List.dropWhile_append_of_pos hbefore, List.takeWhile_append_of_pos hbefore]
    simp

end SchemaBinding.Text
