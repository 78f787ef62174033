import LuaMarkup.Command.Options
import LuaMarkup.Command.Paragraph
import LuaMarkup.Command.Template

/-!
The commands, and what is said about their use.
-/

namespace LuaMarkup.Command

/-- What help is given on: the program or one of its commands. -/
inductive Topic where
  | program
  | source
  | page
deriving DecidableEq, Repr

namespace Topic

def name : Topic → Text
  | .program => "lualight".toList
  | .source => "lualight source".toList
  | .page => "lualight page".toList

def options : Topic → List Opt
  | .program => [.help, .trace]
  | .source => [.help]
  | .page => [.help, .output, .cssClass]

/-- What follows the name in a usage line. -/
def synopsis : Topic → Text
  | .program => "[-h] [--trace | --no-trace] \x7bsource,page\x7d ...".toList
  | .source => "[-h] file".toList
  | .page => "[-h] [-o OUTPUT] [--class CSS_CLASS] file".toList

def usage (topic : Topic) : Text :=
  "usage: ".toList ++ topic.name ++ [' '] ++ topic.synopsis ++ ['\n']

/-- What is printed where a command line is misused. -/
def complaint (topic : Topic) (misuse : Misuse) : Text :=
  topic.usage ++ topic.name ++ ": error: ".toList ++ misuse.message ++ ['\n']

end Topic

/-- An entry of a help text: a head that is indented, and what it means. -/
structure Entry where
  indent : Nat := 2
  head : Text
  meaning : Text

structure Section where
  title : Text
  entries : List Entry

namespace Help

def lineWidth : Nat := 78

def maxIndent : Nat := 24

/-- The column where the meanings begin. -/
def column (sections : List Section) : Nat :=
  let widths := sections.flatMap fun s => s.entries.map fun e => e.indent + e.head.length
  min (widths.foldl max 0 + 2) maxIndent

def blanks (n : Nat) : Text := List.replicate n ' '

/-- A meaning begins on the line of its head if there are two spaces between them. -/
def entryText (column : Nat) (e : Entry) : Text :=
  let head := blanks e.indent ++ e.head
  let lines := Paragraph.lines (lineWidth - column) e.meaning
  let body := lines.map fun line => blanks column ++ line ++ ['\n']
  if 0 < lines.length ∧ head.length + 2 ≤ column then
    head ++ (body.flatten.drop head.length)
  else head ++ ['\n'] ++ body.flatten

def sectionText (column : Nat) (s : Section) : Text :=
  ['\n'] ++ s.title ++ [':', '\n'] ++ (s.entries.map (entryText column)).flatten

def text (topic : Topic) (description : Text) (sections : List Section) : Text :=
  topic.usage ++
    (if description.isEmpty then [] else ['\n'] ++ description ++ ['\n']) ++
    (sections.map (sectionText (column sections))).flatten

def helpEntry : Entry :=
  { head := "-h, --help".toList, meaning := "show this help message and exit".toList }

def programSections : List Section :=
  [{ title := "positional arguments".toList
     entries :=
      [{ head := "\x7bsource,page\x7d".toList, meaning := [] },
       { indent := 4, head := "source".toList, meaning := "Highlight a Lua source file".toList },
       { indent := 4, head := "page".toList
         meaning := "Highlight Lua code elements in HTML".toList }] },
   { title := "options".toList
     entries :=
      [helpEntry,
       { head := "--trace, --no-trace".toList
         meaning := "Log every classifier match at DEBUG level".toList }] }]

def sourceSections : List Section :=
  [{ title := "positional arguments".toList
     entries :=
      [{ head := "file".toList, meaning := "Lua file to read, or - for stdin".toList }] },
   { title := "options".toList, entries := [helpEntry] }]

/-- The class that is preset goes into its meaning before the template is filled. -/
def classTemplate (preset : Text) : Text :=
  "Class marking Lua code elements (default: ".toList ++ preset ++ [')']

/-- What the names in the template of a class stand for. -/
def classMembers (preset : Text) : List (Text × Value) :=
  let members : List (String × Value) :=
    [("option_strings", .texts Opt.cssClass.names), ("dest", .text "css_class".toList),
      ("nargs", .absent), ("const", .absent), ("default", .text preset), ("type", .absent),
      ("choices", .absent), ("required", .no), ("help", .text (classTemplate preset)),
      ("metavar", .absent),
      ("container", .object "_ArgumentGroup".toList
        "<argparse._ArgumentGroup object at 0x0>".toList),
      ("prog", .text Topic.page.name)]
  members.map fun (name, value) => (name.toList, value)

def pageSections (classMeaning : Text) : List Section :=
  [{ title := "positional arguments".toList
     entries :=
      [{ head := "file".toList, meaning := "HTML file to read, or - for stdin".toList }] },
   { title := "options".toList
     entries :=
      [helpEntry,
       { head := "-o OUTPUT, --output OUTPUT".toList
         meaning := "Write to this file (default: stdout)".toList },
       { head := "--class CSS_CLASS".toList, meaning := classMeaning }] }]

end Help

/-- The help on a topic, `preset` being the class that is preset. -/
def Topic.help (preset : Text) : Topic → Except TemplateError Text
  | .program =>
    .ok (Help.text .program "Highlight Lua source as HTML markup.".toList Help.programSections)
  | .source => .ok (Help.text .source [] Help.sourceSections)
  | .page => do
    let meaning ← fillTemplate (Help.classMembers preset) (Help.classTemplate preset)
    return Help.text .page [] (Help.pageSections meaning)

end LuaMarkup.Command
