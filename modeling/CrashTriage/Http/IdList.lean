import CrashTriage.Http.Error
import CrashTriage.Http.Form
import CrashTriage.Ranking.Selection
import CrashTriage.Text.Blank
import CrashTriage.Text.Quoted

/-!
# Lists of ids

Ids are listed with commas between them. Blanks around an id do not matter and neither do empty
pieces, so an empty text is an empty list; anything else that is not an integer of 64 bits is an
error that quotes it.
-/

namespace CrashTriage

/-- The error for a piece of a list that is no id. -/
def invalidId (field : String) (piece : List Char) : ApiError :=
  .validation ("invalid id in " ++ field ++ ": " ++ String.ofList (quoted piece))

/-- The ids listed in a text; the error is that of the first piece that is no id. -/
def idList (field : String) (cs : List Char) : Except ApiError (List Int) :=
  (((splitOn ',' cs).map trim).filter (!·.isEmpty)).mapM fun piece =>
    match Numeral.int64? piece with
    | some id => .ok id
    | none => .error (invalidId field piece)

/-- The releases that a field selects: all of them when it is absent, and none when it is empty. -/
def releaseSelection (value : Option String) : Except ApiError ReleaseSelection :=
  match value with
  | none => .ok .all
  | some text => ReleaseSelection.only <$> idList "releases" text.toList

/-- The components that a field selects, if it is there. -/
def componentSelection (value : Option String) : Except ApiError (Option (List Int)) :=
  match value with
  | none => .ok none
  | some text => some <$> idList "components" text.toList

end CrashTriage
