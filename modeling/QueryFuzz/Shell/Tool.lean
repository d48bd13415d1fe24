import QueryFuzz.Shell.Tool.Characters
import QueryFuzz.Shell.Tool.Edit
import QueryFuzz.Shell.Tool.Files
import QueryFuzz.Shell.Tool.Lines
import QueryFuzz.Shell.Tool.Search
import QueryFuzz.Shell.Tool.Sort
import QueryFuzz.Shell.Tool.Values

/-!
# The tools

All tools by their names.
-/

namespace QueryFuzz
namespace Shell

open Tool

def tools : List (String × Tool) :=
  [("basename", basename), ("cat", cat), ("chmod", chmod), ("comm", comm), ("cp", cp), ("cut", cut),
    ("date", date), ("dirname", dirname), ("echo", Tool.echo), ("expr", expr),
    ("false", fun _ => return 1), ("fold", fold), ("grep", grep), ("egrep", fun ws => grep ("-E" :: ws)),
    ("fgrep", fun ws => grep ("-F" :: ws)), ("head", head), ("ls", ls), ("mkdir", mkdir),
    ("mktemp", mktemp), ("mv", mv), ("nl", nl), ("od", od), ("paste", paste),
    ("printenv", printenv), ("rev", rev), ("rm", rm), ("rmdir", rmdir), ("sed", sed),
    ("seq", seq), ("sleep", sleep), ("sort", Tool.sort), ("tac", tac), ("tail", tail),
    ("tee", tee), ("touch", touch), ("tr", tr), ("true", fun _ => return 0), ("uname", uname),
    ("uniq", uniq), ("wc", wc), ("yes", yes), ("sync", fun _ => return 0)]

end Shell
end QueryFuzz
