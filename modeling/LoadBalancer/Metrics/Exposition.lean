import LoadBalancer.Metrics.Tally

/-!
# Exposition of measurements

Measurements as lines of text, for a collector to read.

* `Exposition.metricName`, `Exposition.labelName` – names with other characters replaced;
* `Exposition.labelText` – a text between double quotes, with what has to be escaped;
* `Exposition.lines` – a line for every counter, and the number of observations of every timer.
-/

namespace LoadBalancer.Exposition

/-- A character that may begin the name of a measurement. -/
def isNameStart (c : Char) : Bool := c.isAlpha || c == '_' || c == ':'

/-- A character of the name of a measurement. -/
def isNameChar (c : Char) : Bool := isNameStart c || c.isDigit

/-- A character that may begin the name of a label. -/
def isLabelStart (c : Char) : Bool := c.isAlpha || c == '_'

/-- A character of the name of a label. -/
def isLabelChar (c : Char) : Bool := isLabelStart c || c.isDigit

/-- A text with an underscore in the place of every character that may not stand there. -/
def replaceOthers (atStart inside : Char → Bool) : List Char → List Char
  | [] => []
  | c :: rest =>
    (if atStart c then c else '_') :: rest.map fun c => if inside c then c else '_'

/-- The name of a measurement, with other characters replaced. -/
def metricName (s : String) : String :=
  String.ofList (replaceOthers isNameStart isNameChar s.toList)

/-- The name of a label, with other characters replaced. -/
def labelName (s : String) : String :=
  String.ofList (replaceOthers isLabelStart isLabelChar s.toList)

/-- The text of a label with quotes and line breaks escaped. A backslash in front of a quote or of
another backslash is taken to escape it already (`pending`), line breaks in between left aside; any
other is doubled. -/
def escapeText : Bool → List Char → List Char
  | pending, [] => if pending then ['\\', '\\'] else []
  | pending, '\n' :: rest => '\\' :: 'n' :: escapeText pending rest
  | _, '"' :: rest => '\\' :: '"' :: escapeText false rest
  | pending, '\\' :: rest =>
    if pending then '\\' :: '\\' :: escapeText false rest else escapeText true rest
  | pending, c :: rest => (if pending then ['\\', '\\'] else []) ++ c :: escapeText false rest

/-- The text of a label between double quotes. -/
def labelText (s : String) : String :=
  "\"" ++ String.ofList (escapeText false s.toList) ++ "\""

/-- Labels in the order in which their names came first, each with its last text. -/
def distinct (tags : Tags) : Tags :=
  (tags.foldl (fun (t : Table String String) e => t.put e.1 e.2) .empty).entries

/-- Labels between braces, or nothing if there are none. -/
def labels (tags : Tags) : String :=
  let parts := (distinct tags).map fun e => labelName e.1 ++ "=" ++ labelText e.2
  if parts.isEmpty then ""
  else (Char.ofNat 0x7B).toString ++ ",".intercalate parts ++ (Char.ofNat 0x7D).toString

/-- A series as it is written, with an ending of its name. -/
def head (ending : String) (s : Series Tags) : String :=
  metricName s.name ++ ending ++ labels s.part

/-- Values by the written form of their series; values of series that are written alike are joined. -/
def byHead {α : Type} (ending : String) (join : α → α → α) (es : List (Series Tags × α)) :
    Table String α :=
  es.foldl (fun t e =>
    let h := head ending e.1
    t.put h (match t.get? h with
      | some a => join a e.2
      | none => e.2)) .empty

/-- The counters by their written form: of those that are written alike, the last one counts. Counters
are words of 64 bits. -/
def counters (t : Tally Tags) : Table String Nat :=
  byHead "" (fun _ n => n) (t.counters.entries.map fun e => (e.1, e.2 % size64))

/-- The numbers of observations of timers by their written form. -/
def timers (t : Tally Tags) : Table String Nat :=
  byHead "_count" (· + ·) (t.timers.entries.map fun e => (e.1, e.2.length))

/-- A line for every counter, and one for the number of observations of every timer, sorted. -/
def lines (t : Tally Tags) : List String :=
  ((counters t).entries ++ (timers t).entries).map (fun e => e.1 ++ " " ++ toString e.2)
    |>.mergeSort fun a b => a ≤ b

end LoadBalancer.Exposition
