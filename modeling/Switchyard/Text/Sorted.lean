namespace Switchyard.Text

def insertSorted (s : String) : List String → List String
  | [] => [s]
  | t :: rest =>
    if s < t then s :: t :: rest else if s = t then t :: rest else t :: insertSorted s rest

def sortedSet (ss : List String) : List String :=
  ss.foldr insertSorted []

end Switchyard.Text
