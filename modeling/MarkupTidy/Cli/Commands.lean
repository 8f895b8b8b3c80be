import MarkupTidy.Cli.Grammar
import MarkupTidy.Text.Integer

/-!
# Cli/Commands — the command line of `htmlfmt`

`htmlfmt [-v] [--log-file LOG_FILE] COMMAND ...`, where the command is one of

* `prettify [PATH] [--config CONFIG] [--write | --check | --diff] [--indent-size N] [--tabs]`,
* `minify [PATH] [--config CONFIG] [--write | --check | --diff] [--keep-comments]`,
* `validate [PATH] [--json]`,
* `serve [--host HOST] [--port PORT]`,

and each command also takes `-v` and `--log-file`. The path `-`, the default, is the standard
input. An indentation width is an integer in any spelling an integer may have (blanks around it,
underscores between digits, digits of any script), and must not be negative.
-/

namespace MarkupTidy.Cli

open MarkupTidy.Text

/-- Reads a width: an integer that is zero or more. -/
def readWidth (w : String) : Except String Given :=
  match readInteger 10 w with
  | .ok n => if n < 0 then .error ("must be zero or positive, got " ++ toString n)
    else .ok (.number n)
  | .error _ => .error ("expected an integer, got " ++ quoted w)

/-- Reads an integer. -/
def readInt (w : String) : Except String Given :=
  match readInteger 10 w with
  | .ok n => .ok (.number n)
  | .error _ => .error ("invalid int value: " ++ quoted w)

/-- Reads a path or any other text. -/
def readText (w : String) : Except String Given := .ok (.text w)

/-- The help option. -/
def helpOpt : Arg :=
  .opt ⟨["-h", "--help"], "help", .help, none, "show this help message and exit"⟩

/-- The verbosity option; a command's own leaves the setting alone when not given. -/
def verboseOpt (default : Option Given) : Arg :=
  .opt ⟨["-v", "--verbose"], "verbose", .const (.flag true), default,
    "Increase log verbosity for troubleshooting."⟩

/-- The log file option; a command's own leaves the setting alone when not given. -/
def logFileOpt (default : Option Given) : Arg :=
  .opt ⟨["--log-file"], "log_file", .store "LOG_FILE" readText, default,
    "Also write log records to this file."⟩

/-- The operand naming the file, `-` for the standard input. -/
def pathArg : Arg :=
  .operand "path" "-" "HTML file to process (defaults to '-' for standard input)."

/-- The settings file option. -/
def configOpt : Arg :=
  .opt ⟨["--config"], "config", .store "CONFIG" readText, some .none,
    "Path to a .htmlfmt.yml file or the directory holding one."⟩

/-- A switch that is off unless given. -/
def switch (name dest help : String) : Arg :=
  .opt ⟨[name], dest, .const (.flag true), some (.flag false), help⟩

/-- What to do with a formatted file: write it, check it, or show the difference. -/
def outputModes : List Arg :=
  [switch "--write" "write" "Rewrite the file in place instead of printing the result.",
   switch "--check" "check" "Exit with status 1 if the file would change; print nothing.",
   switch "--diff" "diff" "Print a unified diff of the changes instead of the result."]

/-- The arguments every command starts with. -/
def commonArgs : List Arg := [helpOpt, verboseOpt none, logFileOpt none]

/-- The grammar of `prettify`. -/
def prettifyGrammar : Grammar where
  prog := "htmlfmt prettify"
  description := none
  args := commonArgs ++ [pathArg, configOpt] ++ outputModes ++
    [.opt ⟨["--indent-size"], "indent_size", .store "INDENT_SIZE" readWidth, some .none,
      "Number of spaces per indentation level (default from config, else 2)."⟩,
     .opt ⟨["--tabs"], "use_tabs", .const (.flag true), some .none,
      "Indent with one tab per level instead of spaces."⟩]
  exclusive := [[5, 6, 7]]

/-- The grammar of `minify`. -/
def minifyGrammar : Grammar where
  prog := "htmlfmt minify"
  description := none
  args := commonArgs ++ [pathArg, configOpt] ++ outputModes ++
    [.opt ⟨["--keep-comments"], "remove_comments", .const (.flag false), some .none,
      "Leave <!-- comments --> in the output."⟩]
  exclusive := [[5, 6, 7]]

/-- The grammar of `validate`. -/
def validateGrammar : Grammar where
  prog := "htmlfmt validate"
  description := none
  args := commonArgs ++ [pathArg, switch "--json" "json" "Print the validation report as JSON."]
  exclusive := []

/-- The grammar of `serve`. -/
def serveGrammar : Grammar where
  prog := "htmlfmt serve"
  description := none
  args := commonArgs ++
    [.opt ⟨["--host"], "host", .store "HOST" readText, some (.text "127.0.0.1"),
      "Interface to bind."⟩,
     .opt ⟨["--port"], "port", .store "PORT" readInt, some (.number 8000),
      "Port to listen on."⟩]
  exclusive := []

/-- The grammar of the whole command line. -/
def mainGrammar : Grammar where
  prog := "htmlfmt"
  description := some "Pretty-print, minify and structurally validate HTML markup."
  args := [helpOpt, verboseOpt (some (.flag false)), logFileOpt (some .none),
    .command "command"
      [("prettify", "Reformat markup with one segment per line and consistent indentation."),
       ("minify", "Strip comments and collapse insignificant whitespace."),
       ("validate", "Report unbalanced, mismatched or unclosed tags."),
       ("serve", "Run the HTTP service exposing the three operations.")]]
  exclusive := []

/-- The grammar of each command. -/
def commandGrammar : String → Option Grammar
  | "prettify" => some prettifyGrammar
  | "minify" => some minifyGrammar
  | "validate" => some validateGrammar
  | "serve" => some serveGrammar
  | _ => none

end MarkupTidy.Cli
