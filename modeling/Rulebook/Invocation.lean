import Rulebook.Command

/-
  The command line: which command to carry out, on which file,
  and in which form.

  Key definitions include:
    * `Options`
    * `Options.read`
    * `Invocation`
    * `Invocation.ofArguments`
    * `usage`
-/

namespace Rulebook

/- What the arguments behind a command say. -/
structure Options where
  file : Option String
  format : Format
  keepGoing : Bool
deriving DecidableEq, Repr

/- What a command line asks for. -/
inductive Invocation where
  | help
  | sample
  | command
      (command : Command)
      (file : Option String)
      (format : Format)
deriving DecidableEq, Repr

/- How the program is called. -/
def usage : String :=
  String.join
    (["Usage: rulebook COMMAND [OPTIONS] [FILE]",
      "",
      "Commands:",
      "  tokens  Print the token table",
      "  parse   Print the parsed program tree",
      "  run     Apply the rules to every test and print " ++
        "the report",
      "  check   Only validate syntax",
      "  sample  Print a sample program",
      "",
      "Options:",
      "  -f, --format FORMAT  Output format: text or json",
      "      --keep-going     Keep running other tests when " ++
        "one has a malformed expression",
      "",
      "Without FILE the source is read from stdin."].map
      (· ++ "\n"))

/- The format of a name. -/
def Format.ofName (name : String) : Except String Format :=
  if name = "text" then .ok .text
  else if name = "json" then .ok .json
  else .error ("invalid format '" ++ name ++ "'")

namespace Options

/- Without any arguments. -/
def default : Options :=
  ⟨none, .text, false⟩

/- Read arguments one after the other. -/
def read :
    List String → Options → Except String Options
  | [], options => .ok options
  | "--keep-going" :: arguments, options =>
      read arguments { options with keepGoing := true }
  | "-f" :: name :: arguments, options => do
      let format ← Format.ofName name
      read arguments { options with format }
  | "--format" :: name :: arguments, options => do
      let format ← Format.ofName name
      read arguments { options with format }
  | argument :: arguments, options =>
      if argument.startsWith "-" then
        .error ("unexpected argument '" ++ argument ++ "'")
      else
        match options.file with
        | some _ =>
            .error ("unexpected argument '" ++ argument ++ "'")
        | none =>
            read arguments { options with file := some argument }

end Options

namespace Invocation

/- A command with the options that it takes. -/
def ofOptions
    (name : String)
    (options : Options) : Except String Invocation :=
  match name with
  | "tokens" =>
      .ok (.command .tokens options.file options.format)
  | "parse" =>
      .ok (.command .parse options.file options.format)
  | "run" =>
      .ok
        (.command (.run options.keepGoing) options.file
          options.format)
  | "check" => .ok (.command .check options.file .text)
  | "sample" => .ok .sample
  | _ => .error ("unrecognized command '" ++ name ++ "'")

/- What the arguments of the program ask for. -/
def ofArguments : List String → Except String Invocation
  | [] => .error "a command is required"
  | "-h" :: _ => .ok .help
  | "--help" :: _ => .ok .help
  | name :: arguments => do
      let options ← Options.read arguments .default
      ofOptions name options

end Invocation

end Rulebook
