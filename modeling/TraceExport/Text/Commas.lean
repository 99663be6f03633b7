/-
Texts that hold several parts with commas between them.
-/
namespace TraceExport.Text

/-- The parts of a text between its commas, the characters of the first one in reverse. -/
def commaParts (part : List Char) : List Char → List String
  | [] => [String.ofList part.reverse]
  | ',' :: cs => String.ofList part.reverse :: commaParts [] cs
  | c :: cs => commaParts (c :: part) cs

/-- The parts of a text between its commas. There is always one more than there are commas. -/
def splitCommas (s : String) : List String := commaParts [] s.toList

/-! ## A comma parts what stands on its sides -/

theorem commaParts_append (part cs ds : List Char) :
    commaParts part (cs ++ ',' :: ds) = commaParts part cs ++ commaParts [] ds := by
  induction cs generalizing part with
  | nil => simp [commaParts]
  | cons c cs ih =>
    by_cases h : c = ','
    · subst h; simp [commaParts, ih]
    · simp [commaParts, ih]

theorem splitCommas_append (s t : String) :
    splitCommas (s ++ "," ++ t) = splitCommas s ++ splitCommas t := by
  simp [splitCommas, commaParts_append]

end TraceExport.Text
