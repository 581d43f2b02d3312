/-! Cutting a text into parts. `splitAll` cuts at every separator and always
answers at least one part; `splitFirst` cuts at the first one, if there is any. -/
namespace StartPage.Text

/-- The parts between the separators, in their order. -/
def splitAll (isSeparator : Char → Bool) : List Char → List (List Char)
  | [] => [[]]
  | c :: s =>
    if isSeparator c then [] :: splitAll isSeparator s
    else match splitAll isSeparator s with
      | [] => [[c]]
      | part :: parts => (c :: part) :: parts

/-- What comes before the first separator, and what comes behind it. -/
def splitFirst (separator : Char) : List Char → List Char × Option (List Char)
  | [] => ([], none)
  | c :: s =>
    if c = separator then ([], some s)
    else
      let (before, behind) := splitFirst separator s
      (c :: before, behind)

/-- What comes before the last separator, if there is any, and what comes behind it. -/
def splitLast (separator : Char) : List Char → Option (List Char) × List Char
  | [] => (none, [])
  | c :: s =>
    match splitLast separator s with
    | (some before, behind) => (some (c :: before), behind)
    | (none, behind) => if c = separator then (some [], behind) else (none, c :: behind)

end StartPage.Text
