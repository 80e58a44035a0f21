namespace Larder.Text

def parts (separator : Char) : List Char → List (List Char)
  | [] => [[]]
  | c :: rest =>
      if c = separator then [] :: parts separator rest
      else
        match parts separator rest with
        | [] => [[c]]
        | first :: others => (c :: first) :: others

def cut? (middle : List Char) : List Char → Option (List Char × List Char)
  | [] => if middle.isEmpty then some ([], []) else none
  | c :: rest =>
      if middle.isPrefixOf (c :: rest) then some ([], (c :: rest).drop middle.length)
      else (cut? middle rest).map fun (before, behind) => (c :: before, behind)

def occursIn (middle text : String) : Bool :=
  (cut? middle.toList text.toList).isSome

end Larder.Text
