import LogicLexer.Text.ByteOffset
import LogicLexer.Text.GraphemeCluster

/-!
# The standard input

A menu session asks for one line after the other. What that comes to is a `Reading`: a line, the end
of the input, or a failure. An `Input` is all that a session can meet there, however lines are asked
for; `Input.ofBytes` is what it meets where bytes are piped in. They are cut into lines behind each
line feed, and a line is read only if it is UTF-8.

A line is read without what ends it, and with the corrections made that were typed into it. A
backspace takes back the cluster before it. The length of a cluster is remembered modulo 256 only,
so of a longer one a backspace takes back no more than the remainder; if that ends inside a
character, the reader breaks down. `typedLine_of_not_mem` says that a line without backspaces stands
as it was typed.
-/

namespace LogicLexer.CommandLine

open Text

/-- A line without the line feed that ends it, and without a carriage return before that. -/
def withoutTerminator (line : List Char) : List Char :=
  match line.reverse with
  | '\n' :: '\r' :: before => before.reverse
  | '\n' :: before => before.reverse
  | _ => line

/-- The key that takes back what was typed before it. -/
def backspace : Char := '\x08'

/-- The number of lengths of clusters that are told apart. -/
def clusterLengths : Nat := 256

/-- A line while it is typed. -/
structure Typing where
  /-- The text that stands there, read backwards. -/
  reversed : List Char
  /-- The bytes that each backspace is going to take back, the next one first. -/
  lengths : List Nat

/-- Types one cluster, or takes one back. -/
def Typing.step (t : Typing) (cluster : List Char) : Option Typing :=
  if cluster = [backspace] then
    match t.lengths with
    | [] => some t
    | length :: lengths =>
      (splitAtByte? length t.reversed).map fun (_, reversed) => ⟨reversed, lengths⟩
  else some ⟨cluster.reverse ++ t.reversed, byteLength cluster % clusterLengths :: t.lengths⟩

/-- What stands on a line when it is read. -/
def typedLine (line : List Char) : Option String :=
  ((clusters (withoutTerminator line)).foldlM Typing.step ⟨[], []⟩).map fun t =>
    String.ofList t.reversed.reverse

/-- What asking for a line comes to. -/
inductive Reading where
  /-- A line is read. -/
  | line (text : String)
  /-- The input is over, or was interrupted. -/
  | ended
  /-- The line cannot be read, as the report says. -/
  | failed (report : String)
  /-- The reader breaks down, as the report says. -/
  | broken (report : String)
deriving DecidableEq

/-- The standard input as a menu session meets it. -/
inductive Input where
  /-- Lines cannot be asked for, as the report says. -/
  | closed (report : String)
  /-- What asking for lines comes to, one after the other. The input is over behind the last one. -/
  | readings (readings : List Reading)
deriving DecidableEq

/-- What is said about a line that is not UTF-8. -/
def notText : String :=
  "stream did not contain valid UTF-8\n\nCaused by:\n    stream did not contain valid UTF-8"

/-- What is said when a typed line is cut inside a character. -/
def brokenLine : String :=
  "a backspace on the line ends inside a character"

/-- The byte that ends a line. -/
def lineFeed : UInt8 := 0x0A

/-- What asking for a line comes to, from the bytes of the line. -/
def readLine (bytes : List UInt8) : Reading :=
  match String.fromUTF8? ⟨bytes.toArray⟩ with
  | none => .failed notText
  | some line =>
    match typedLine line.toList with
    | some text => .line text
    | none => .broken brokenLine

/-- The input of bytes that are piped in. -/
def Input.ofBytes (bytes : ByteArray) : Input :=
  .readings ((bytes.data.toList.splitBy fun byte _ => byte != lineFeed).map readLine)

/-- A text stands for its bytes. -/
instance : Coe String Input :=
  ⟨fun text => .ofBytes text.toUTF8⟩

/-- Without backspaces, the clusters follow each other. -/
theorem foldlM_step_of_not_mem {cs : List (List Char)} (h : [backspace] ∉ cs) (t : Typing) :
    ∃ lengths, cs.foldlM Typing.step t = some ⟨cs.flatten.reverse ++ t.reversed, lengths⟩ := by
  induction cs generalizing t with
  | nil => exact ⟨t.lengths, rfl⟩
  | cons c cs ih =>
    simp only [List.mem_cons, not_or] at h
    have hstep : t.step c =
        some ⟨c.reverse ++ t.reversed, byteLength c % clusterLengths :: t.lengths⟩ :=
      if_neg (Ne.symm h.1)
    obtain ⟨lengths, hl⟩ :=
      ih h.2 ⟨c.reverse ++ t.reversed, byteLength c % clusterLengths :: t.lengths⟩
    refine ⟨lengths, ?_⟩
    rw [List.foldlM_cons, hstep]
    simpa using hl

/-- A line without backspaces stands as it was typed. -/
theorem typedLine_of_not_mem {line : List Char} (h : backspace ∉ withoutTerminator line) :
    typedLine line = some (String.ofList (withoutTerminator line)) := by
  have hmem : [backspace] ∉ clusters (withoutTerminator line) := fun hm => by
    rw [← flatten_clusters (withoutTerminator line)] at h
    exact h (List.mem_flatten.2 ⟨_, hm, List.mem_singleton.2 rfl⟩)
  obtain ⟨lengths, hl⟩ := foldlM_step_of_not_mem hmem ⟨[], []⟩
  simp [typedLine, hl, flatten_clusters]

end LogicLexer.CommandLine
