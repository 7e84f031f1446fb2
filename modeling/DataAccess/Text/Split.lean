/-!
Cutting texts at a character, searching and replacing, on lists of characters.
-/

namespace DataAccess

namespace Text

/-- The pieces between the occurrences of a character; there is one more than occurrences. -/
def splitChars (separator : Char) : List Char → List (List Char)
  | [] => [[]]
  | c :: rest =>
    if c = separator then [] :: splitChars separator rest
    else
      match splitChars separator rest with
      | [] => [[c]]
      | piece :: pieces => (c :: piece) :: pieces

def split (separator : Char) (s : String) : List String :=
  (splitChars separator s.toList).map String.ofList

/-- What stands before and after the first occurrence of a character. -/
def splitOnceChars (separator : Char) : List Char → Option (List Char × List Char)
  | [] => none
  | c :: rest =>
    if c = separator then some ([], rest)
    else (splitOnceChars separator rest).map fun (before, after) => (c :: before, after)

def splitOnce (separator : Char) (s : String) : Option (String × String) :=
  (splitOnceChars separator s.toList).map fun (before, after) =>
    (String.ofList before, String.ofList after)

/-- What stands before and after the last occurrence of a character. -/
def splitLastChars (separator : Char) (s : List Char) : Option (List Char × List Char) :=
  (splitOnceChars separator s.reverse).map fun (after, before) => (before.reverse, after.reverse)

def splitLast (separator : Char) (s : String) : Option (String × String) :=
  (splitLastChars separator s.toList).map fun (before, after) =>
    (String.ofList before, String.ofList after)

/-- The rest of a text that begins with `start`. -/
def dropStart? : List Char → List Char → Option (List Char)
  | [], s => some s
  | _ :: _, [] => none
  | a :: start, c :: s => if a = c then dropStart? start s else none

def startsWith (s start : List Char) : Bool := (dropStart? start s).isSome

/-- The rest of a text that ends in `finish`. -/
def dropEnd? (finish s : List Char) : Option (List Char) :=
  (dropStart? finish.reverse s.reverse).map List.reverse

/-- What stands before and after the first occurrence of a text. -/
def splitAtText (middle : List Char) : List Char → Option (List Char × List Char)
  | [] => if middle.isEmpty then some ([], []) else none
  | c :: rest =>
    match dropStart? middle (c :: rest) with
    | some after => some ([], after)
    | none => (splitAtText middle rest).map fun (before, after) => (c :: before, after)

def occursIn (middle s : List Char) : Bool := (splitAtText middle s).isSome

/-- Replaces every occurrence of a character by a text. -/
def replaceChar (old : Char) (new : List Char) (s : List Char) : List Char :=
  s.flatMap fun c => if c = old then new else [c]

def join (separator : String) (parts : List String) : String := separator.intercalate parts

end Text

end DataAccess
