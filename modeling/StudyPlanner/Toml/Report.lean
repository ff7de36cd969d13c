import StudyPlanner.Toml.Fault
import StudyPlanner.Text.Utf8
/-!
# Showing a document error

An error with a span is shown with the line it is on:

```
TOML parse error at line 1, column 18
  |
1 | local_endpoint = 5
  |                  ^
invalid type: integer `5`, expected a string
```

The line and column come from the span's first byte. The column counts characters from the
start of the line, except when the span starts inside a character, where it counts bytes; a
span that starts at the very end of the input is shown on the last line, one column after its
last character (a final line feed counting as a character of that line). The carets cover the
span, at least one and no further than the end of the line. An error without a span is its
message alone.
-/

namespace StudyPlanner.Toml

/-- The line and column, both counted from zero, where byte `index` of `bytes` is shown. -/
def position (bytes : List UInt8) (index : Nat) : Nat × Nat :=
  if bytes.isEmpty then (0, index)
  else
    let safe := min index (bytes.length - 1)
    let lineStart := match (bytes.take safe).reverse.findIdx? (· = 10) with
      | some k => safe - k
      | none => 0
    let line := (bytes.take lineStart).count 10
    let column := match Text.Utf8.decodeStrict ((bytes.drop lineStart).take (safe - lineStart + 1)) with
      | some cs => cs.length - 1
      | none => safe - lineStart
    (line, column + (index - safe))

/-- `n` spaces. -/
def spaces (n : Nat) : String := String.ofList (List.replicate n ' ')

/-- The text of an error about the document `text`, ending with a line feed. -/
def TomlError.render (text : String) (e : TomlError) : String :=
  match e.span with
  | none => e.message ++ "\n"
  | some span =>
    let (line, column) := position (Text.Utf8.encode text) span.start
    let lineNum := toString (line + 1)
    let gutter := spaces (lineNum.length + 1)
    let content := ((text.splitOn "\n")[line]?).getD ""
    let highlight := min (span.stop - span.start) (content.utf8ByteSize - column)
    "TOML parse error at line " ++ lineNum ++ ", column " ++ toString (column + 1) ++ "\n" ++
      gutter ++ "|\n" ++
      lineNum ++ " | " ++ content ++ "\n" ++
      gutter ++ "|" ++ spaces (column + 1) ++ "^" ++ String.ofList (List.replicate (highlight - 1) '^') ++
      "\n" ++ e.message ++ "\n"

end StudyPlanner.Toml
