import ClientFacade.Text.CaseTable

/-!
# Lower case

Every character has a lower case of its own, except two. The capital I with a dot becomes an i
followed by a combining dot. The capital sigma becomes a final sigma at the end of a word: when a
cased letter stands before it and none behind it, characters that case ignores not counted.
-/

namespace ClientFacade

def isCased (c : Char) : Bool := inRanges casedRanges c.toNat

def isCaseIgnorable (c : Char) : Bool := inRanges caseIgnorableRanges c.toNat

/-- The lower case of one character, where it does not hang on the neighbours. -/
def lowerChar (c : Char) : Text :=
  if c.toNat = 0x130 then ['i', '\u0307']
  else
    match lowercaseRuns.find? fun (first, last, step, _) =>
        first ≤ c.toNat && c.toNat ≤ last && (c.toNat - first) % step = 0 with
    | some (_, _, _, distance) => [Char.ofNat (c.toNat + distance).toNat]
    | none => [c]

/-- Whether the nearest character that case does not ignore is a cased letter. -/
def casedNext (text : Text) : Bool :=
  match text.dropWhile isCaseIgnorable with
  | [] => false
  | c :: _ => isCased c

namespace Text

/-- Lower case of `text`, where `before` is what precedes it, nearest character first. -/
def lowerAfter (before : Text) : Text → Text
  | [] => []
  | c :: rest =>
    (if c = 'Σ' then
      [if casedNext before && !casedNext rest then 'ς' else 'σ']
    else lowerChar c) ++ lowerAfter (c :: before) rest

def lower (text : Text) : Text := lowerAfter [] text

end Text

end ClientFacade
