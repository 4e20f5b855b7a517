import HingeField.Shell.Utility.Blocks
import HingeField.Shell.Utility.Bytes
import HingeField.Shell.Utility.Columns
import HingeField.Shell.Utility.Deadline
import HingeField.Shell.Utility.Dependence
import HingeField.Shell.Utility.Facts
import HingeField.Shell.Utility.Factors
import HingeField.Shell.Utility.FileComparison
import HingeField.Shell.Utility.Figures
import HingeField.Shell.Utility.Files
import HingeField.Shell.Utility.Layout
import HingeField.Shell.Utility.Links
import HingeField.Shell.Utility.Lettering
import HingeField.Shell.Utility.Merging
import HingeField.Shell.Utility.Paragraph
import HingeField.Shell.Utility.Properties
import HingeField.Shell.Utility.Repeats
import HingeField.Shell.Utility.Scaling
import HingeField.Shell.Utility.Splitting
import HingeField.Shell.Utility.Search
import HingeField.Shell.Utility.Sections
import HingeField.Shell.Utility.Whole

/-!
The commands on files and texts by their names.
-/

namespace HingeField.Shell.Utility

/-- Does something in the name of another command. -/
def inNameOf (command : String) (work : List String → Work Unit) (operands : List String) :
    Work Unit := do
  modify fun desk => { desk with command }
  work operands

/-- The commands that show digests, with the kinds of them. -/
def digestPrograms : List (String × String) :=
  [("md5sum", "md5"), ("sha1sum", "sha1"), ("sha224sum", "sha224"), ("sha256sum", "sha256"),
    ("sha384sum", "sha384"), ("sha512sum", "sha512"), ("b2sum", "blake2b")]

/-- What a name of the catalog does with its operands. -/
def catalog : List (String × (List String → Work Unit)) :=
  [("true", fun _ => pure ()),
    ("false", fun _ => setStatus 1),
    ("echo", printLine),
    ("yes", repeatLine),
    ("printenv", showEnvironment),
    ("pwd", showDirectory),
    ("whoami", showFact "root"),
    ("hostname", showFact "localhost"),
    ("nproc", showFact "4"),
    ("arch", showFact "x86_64"),
    ("id", showIdentity),
    ("groups", showGroups),
    ("uname", showSystem),
    ("tty", showTerminal),
    ("date", showTimes),
    ("which", showPrograms),
    ("sync", settleFiles),
    ("sleep", sleepFor),
    ("cat", concatenate),
    ("tac", reverseLines),
    ("rev", reverseEachLine),
    ("tee", spread),
    ("nl", numberLines),
    ("fold", foldLines),
    ("fmt", fillLines),
    ("expand", expandLines),
    ("unexpand", shrinkLines),
    ("head", showFirst),
    ("tail", showLast),
    ("wc", countParts),
    ("split", splitFile),
    ("csplit", cutSections),
    ("sort", sortLines),
    ("uniq", uniqueLines),
    ("comm", compareColumns),
    ("paste", pasteLines),
    ("join", joinLines),
    ("tsort", sortByPairs),
    ("factor", showFactors),
    ("numfmt", scaleNumbers),
    ("base64", showLetters .base64),
    ("base32", showLetters .base32),
    ("basenc", showChosenLetters),
    ("sum", showPlainSums),
    ("cksum", showChecksums),
    ("cut", cutLines),
    ("tr", translateChars),
    ("seq", countUp),
    ("expr", evaluateOperands),
    ("basename", showLastComponents),
    ("dirname", showDirectories),
    ("dd", copyBlocks),
    ("od", dumpBytes),
    ("cmp", compareBytes),
    ("diff", compareLines),
    ("grep", search .basic),
    ("egrep", inNameOf "grep" (search .extended)),
    ("fgrep", inNameOf "grep" (search .fixed)),
    ("cp", copyFiles),
    ("mv", moveFiles),
    ("install", installFiles),
    ("ln", linkFiles),
    ("link", linkOnce),
    ("unlink", unlinkOnce),
    ("realpath", showPlaces),
    ("readlink", showLinks),
    ("rm", removeFiles),
    ("mkdir", makeDirectories),
    ("mkfifo", makeFifos),
    ("mktemp", makeTemporary),
    ("rmdir", removeDirectories),
    ("touch", touchFiles),
    ("truncate", resizeFiles),
    ("ls", listFiles),
    ("stat", showProperties),
    ("chmod", permitFiles),
    ("chown", ownFiles false),
    ("chgrp", ownFiles true)] ++
  digestPrograms.filterMap fun (name, kind) =>
    (digestKinds.lookup kind).map fun digest => (name, showDigests digest)

end HingeField.Shell.Utility
