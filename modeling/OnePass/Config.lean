import OnePass.Encoding.Name
import OnePass.Text.Numeral

/-!
# Settings

The marks that give a source line its shape, the limit on the length of a line and the encoding of
source files. Settings may be put together freely; `Config.check` says whether they are usable.
-/

namespace OnePass

/-- The settings of a run. -/
structure Config where
  /-- Starts a comment outside quoted spans. -/
  commentMark : Text := ";"
  /-- Opens and closes a quoted span. -/
  quoteMark : Text := "'"
  /-- Inside a quoted span, deprives the next character of its meaning. -/
  escapeMark : Text := "\\"
  /-- Ends the field that declares a label. -/
  labelMark : Text := ":"
  /-- A raw line of this many characters is too long. -/
  lineLimit : Int := 1000
  /-- The name of the encoding of source files. -/
  encoding : Text := "utf-8"
deriving DecidableEq, Repr

inductive Mark where
  | comment
  | quote
  | escape
  | label
deriving DecidableEq, Repr

/-- The name of the setting that holds a mark. -/
def Mark.setting : Mark → Text
  | .comment => "comment_char"
  | .quote => "quote_char"
  | .escape => "escape_char"
  | .label => "label_terminator"

inductive ConfigError where
  | badMark (mark : Mark) (value : Text)
  | marksCoincide
  | limitNotPositive (limit : Int)
  | limitNotInteger (text : Text)
  | unknownEncoding (name : Text)
  /-- The name of the encoding holds the null character. -/
  | nullInEncoding
deriving DecidableEq, Repr

def ConfigError.message : ConfigError → Text
  | .badMark mark value =>
    mark.setting ++ " must be a single non-space character, got " ++ Text.quoted value
  | .marksCoincide => "comment, quote, escape and label characters must differ"
  | .limitNotPositive limit => "max_line_length must be positive, got " ++ Text.ofInt limit
  | .limitNotInteger text =>
    "LINASM_MAX_LINE_LENGTH must be an integer, got " ++ Text.quoted text
  | .unknownEncoding name => "unknown encoding " ++ Text.quoted name
  | .nullInEncoding => "embedded null character"

/-- Whether a text can serve as a mark: a single character that is not blank. -/
def isMark : Text → Bool
  | [c] => !Text.isBlank c
  | _ => false

namespace Config

/-- The marks in the order in which they are checked. -/
def marks (c : Config) : List (Mark × Text) :=
  [(.comment, c.commentMark), (.quote, c.quoteMark), (.escape, c.escapeMark),
   (.label, c.labelMark)]

/-- Checks the settings: each mark, then that the marks differ, then the limit, then the encoding.
The first fault found is the error. -/
def check (c : Config) : Except ConfigError Unit :=
  match c.marks.find? fun m => !isMark m.2 with
  | some m => .error (.badMark m.1 m.2)
  | none =>
    if ¬(c.marks.map Prod.snd).Nodup then .error .marksCoincide
    else if c.lineLimit < 1 then .error (.limitNotPositive c.lineLimit)
    else if '\x00' ∈ c.encoding then .error .nullInEncoding
    else if (Codec.ofName? c.encoding).isNone then .error (.unknownEncoding c.encoding)
    else .ok ()

/-- Settings are valid when the check finds no fault. -/
def Valid (c : Config) : Prop := c.check = .ok ()

instance (c : Config) : Decidable c.Valid :=
  match h : c.check with
  | .ok () => .isTrue h
  | .error e => .isFalse (by simp [Valid, h])

end Config

/-- The variables of the environment that hold settings. A variable that is unset or empty leaves
its setting at the default. -/
structure Environment where
  maxLineLength : Option Text := none
  encoding : Option Text := none
deriving DecidableEq, Repr

/-- Why variables make no environment. -/
inductive EnvironmentError where
  /-- A variable holds the null character, at which its text would end. -/
  | nullInVariable
deriving DecidableEq, Repr

def EnvironmentError.message : EnvironmentError → Text
  | .nullInVariable => "embedded null byte"

namespace Environment

/-- The environment that variables make. No variable holds the null character. -/
def ofVariables (maxLineLength encoding : Option Text) : Except EnvironmentError Environment :=
  if [maxLineLength, encoding].any fun v => v.any fun text => '\x00' ∈ text then
    .error .nullInVariable
  else .ok { maxLineLength, encoding }

/-- The text of a variable, unless it is unset or empty. -/
def value? : Option Text → Option Text
  | some [] => none
  | v => v

/-- The limit on the length of a line that an environment asks for. -/
def lineLimit (env : Environment) : Except ConfigError Int :=
  match value? env.maxLineLength with
  | none => .ok ({} : Config).lineLimit
  | some text => match Text.integer? text with
    | some limit => .ok limit
    | none => .error (.limitNotInteger text)

/-- The settings that an environment asks for, if they are usable. -/
def config (env : Environment) : Except ConfigError Config :=
  match env.lineLimit with
  | .error e => .error e
  | .ok lineLimit =>
    let config : Config :=
      { lineLimit, encoding := (value? env.encoding).getD ({} : Config).encoding }
    match config.check with
    | .error e => .error e
    | .ok () => .ok config

end Environment

end OnePass
