import LogicLexer.CommandLine.Options
import LogicLexer.Proofs.Lexeme.Ending
import Mathlib.Data.List.TakeWhile

/-!
# Which options can be asked for

The options that some arguments give are the valid ones: no flag is set twice, a file that is named
has a name, and there is not both a file and a text to scan. In one direction, each step of reading
keeps that (`IsSound.readFrom`), and whether there is more than one thing to scan is asked in the
end (`isValid_of_read`). In the other one, `Options.arguments` writes down what to ask for, and it
is read back piece by piece (`read_arguments`).
-/

namespace LogicLexer.CommandLine

open Text

/-- The name of a flag is its long name behind two hyphens. -/
theorem Flag.exists_name_eq (f : Flag) :
    ∃ name : List Char, f.name = String.ofList ('-' :: '-' :: name) ∧ name ≠ [] ∧ '=' ∉ name ∧
      longMeaning? (String.ofList name) = some (.flag f) := by
  refine ⟨f.name.toList.drop 2, ?_⟩
  cases f <;> exact ⟨by decide +kernel, by decide +kernel, by decide +kernel, rfl⟩

namespace Options

/-- What holds of options while they are read: no flag is set twice, and the file has a name. -/
structure IsSound (o : Options) : Prop where
  /-- No flag is set twice. -/
  nodup : o.flags.Nodup
  /-- The name of the file is not empty. -/
  file_ne : o.file ≠ some ""

/-- Options that fit together. -/
structure IsValid (o : Options) : Prop extends IsSound o where
  /-- There are not both a file and a text to scan. -/
  file_or_eval : o.file = none ∨ o.eval = none

/-- Arguments that ask for some options. -/
def arguments (o : Options) : List String :=
  o.flags.map Flag.name ++ o.only.map (fun k => "--only=" ++ k.name) ++
    (o.eval.elim [] fun text => ["--eval=" ++ text]) ++ (o.file.elim [] fun path => ["--", path])

/-! ## What is read is valid -/

/-- A flag is set only once. -/
theorem IsSound.setFlag {o o' : Options} (h : o.IsSound) {f : Flag} (ho : o.setFlag f = .ok o') :
    o'.IsSound := by
  unfold Options.setFlag at ho
  split at ho
  case isTrue => cases ho
  case isFalse hnew =>
    obtain rfl := Except.ok.inj ho
    refine ⟨List.nodup_append.2 ⟨h.nodup, by simp, ?_⟩, h.file_ne⟩
    rintro g hg _ hf rfl
    exact hnew (by simpa [has, List.mem_singleton.1 hf] using hg)

/-- The value of an option has nothing to do with flags and the file. -/
theorem IsSound.setValue {o o' : Options} (h : o.IsSound) {value : String} {s : Setting}
    (ho : o.setValue value s = .ok o') : o'.IsSound := by
  unfold Options.setValue at ho
  split at ho
  · split at ho
    · cases ho
    · obtain rfl := Except.ok.inj ho
      exact ⟨h.nodup, h.file_ne⟩
  · split at ho
    · obtain rfl := Except.ok.inj ho
      exact ⟨h.nodup, h.file_ne⟩
    · cases ho

/-- A file without a name is refused. -/
theorem IsSound.setFile {o o' : Options} (h : o.IsSound) {name : String}
    (ho : o.setFile name = .ok o') : o'.IsSound := by
  unfold Options.setFile at ho
  split at ho
  · cases ho
  · split at ho
    case isTrue => cases ho
    case isFalse hname =>
      obtain rfl := Except.ok.inj ho
      exact ⟨h.nodup, fun hempty => hname (by simp [Option.some.inj hempty])⟩

/-- A step of reading is followed by others only if it gives options. -/
theorem bind_eq_ok {α β : Type} {x : Except Stop α} {f : α → Except Stop β} {b : β}
    (h : (x >>= f) = .ok b) : ∃ a, x = .ok a ∧ f a = .ok b := by
  cases x with
  | error e => cases h
  | ok a => exact ⟨a, rfl, h⟩

/-- A long option is read as a flag or as a value. -/
theorem IsSound.readLong {o : Options} (h : o.IsSound) {text : List Char}
    {read : Options × Option Setting} (ho : o.readLong text = .ok read) : read.1.IsSound := by
  unfold Options.readLong at ho
  dsimp only at ho
  split at ho
  · cases ho
  · obtain ⟨o', hset, hread⟩ := bind_eq_ok ho
    obtain rfl := Except.ok.inj hread
    exact h.setValue hset
  · obtain rfl := Except.ok.inj ho
    exact h
  · cases ho
  · obtain ⟨o', hset, hread⟩ := bind_eq_ok ho
    obtain rfl := Except.ok.inj hread
    exact h.setFlag hset
  · cases ho

/-- Joined short options are read as flags, and then perhaps as a value. -/
theorem IsSound.readShort {o : Options} (h : o.IsSound) {text : List Char}
    {read : Options × Option Setting} (ho : o.readShort text = .ok read) : read.1.IsSound := by
  induction text generalizing o with
  | nil =>
    obtain rfl := Except.ok.inj ho
    exact h
  | cons c cs ih =>
    rw [Options.readShort] at ho
    split at ho
    · cases ho
    · cases ho
    · obtain ⟨o', hset, hrest⟩ := bind_eq_ok ho
      exact ih (h.setFlag hset) hrest
    · split at ho
      · obtain rfl := Except.ok.inj ho
        exact h
      · obtain ⟨o', hset, hread⟩ := bind_eq_ok ho
        obtain rfl := Except.ok.inj hread
        exact h.setValue hset
      · obtain ⟨o', hset, hread⟩ := bind_eq_ok ho
        obtain rfl := Except.ok.inj hread
        exact h.setValue hset

/-- Files that are named behind two hyphens are read as such. -/
theorem IsSound.foldlM_setFile {names : List String} {o o' : Options} (h : o.IsSound)
    (ho : names.foldlM Options.setFile o = .ok o') : o'.IsSound := by
  induction names generalizing o with
  | nil =>
    obtain rfl := Except.ok.inj ho
    exact h
  | cons name names ih =>
    rw [List.foldlM_cons] at ho
    obtain ⟨o₁, hset, hrest⟩ := bind_eq_ok ho
    exact ih (h.setFile hset) hrest

/-- All arguments are read in these steps. -/
theorem IsSound.readFrom {arguments : List String} {o o' : Options} (h : o.IsSound)
    {waiting : Option Setting} (ho : o.readFrom waiting arguments = .ok o') : o'.IsSound := by
  induction arguments generalizing o waiting with
  | nil =>
    cases waiting with
    | none =>
      obtain rfl := Except.ok.inj ho
      exact h
    | some s => cases ho
  | cons argument rest ih =>
    cases waiting with
    | some s =>
      rw [Options.readFrom] at ho
      split at ho
      · cases ho
      · obtain ⟨o₁, hset, hrest⟩ := bind_eq_ok ho
        exact ih (h.setValue hset) hrest
    | none =>
      rw [Options.readFrom] at ho
      split at ho
      · split at ho
        · exact h.foldlM_setFile ho
        · obtain ⟨read, hread, hrest⟩ := bind_eq_ok ho
          exact ih (h.readLong hread) hrest
        · obtain ⟨read, hread, hrest⟩ := bind_eq_ok ho
          exact ih (h.readShort hread) hrest
      · obtain ⟨o₁, hset, hrest⟩ := bind_eq_ok ho
        exact ih (h.setFile hset) hrest

/-- What is read fits together. -/
theorem isValid_of_read {arguments : List String} {o : Options} (h : read arguments = .ok o) :
    o.IsValid := by
  have hempty : IsSound {} := ⟨List.nodup_nil, by simp⟩
  obtain ⟨o', hread, hrest⟩ := bind_eq_ok h
  split at hrest
  case isTrue => cases hrest
  case isFalse hone =>
    obtain rfl := Except.ok.inj hrest
    refine ⟨hempty.readFrom hread, ?_⟩
    cases hfile : o'.file with
    | none => exact .inl rfl
    | some path => exact .inr (by simpa [hfile] using hone)

/-! ## What is valid can be asked for -/

/-- Behind two hyphens, anything but the end of the argument is a long option. -/
theorem readFrom_long (o : Options) {text : List Char} (h : text ≠ []) (rest : List String) :
    o.readFrom none (String.ofList ('-' :: '-' :: text) :: rest) =
      o.readLong text >>= fun (o, waiting) => o.readFrom waiting rest := by
  have hoption : looksLikeOption (String.ofList ('-' :: '-' :: text)) = true := by
    simp [looksLikeOption, ← String.toList_inj]
  obtain ⟨c, cs, rfl⟩ := List.exists_cons_of_ne_nil h
  rw [readFrom, if_pos hoption, String.toList_ofList]
  rfl

/-- A long name goes on up to its value. -/
theorem all_of_notMem {name : List Char} (h : '=' ∉ name) : ∀ c ∈ name, (c != '=') = true :=
  fun c hc => by simpa using fun heq : c = '=' => h (heq ▸ hc)

/-- A long name ends where its value begins. -/
theorem stops_value (value : List Char) : Stops (· != '=') ('=' :: value) :=
  stops_cons.2 (by decide)

/-- The value of a long option stands behind `=`. -/
theorem readLong_value (o : Options) {name value : List Char} {s : Setting} (hname : '=' ∉ name)
    (hs : longMeaning? (String.ofList name) = some (.setting s)) :
    o.readLong (name ++ '=' :: value) =
      o.setValue (String.ofList value) s >>= fun o => pure (o, none) := by
  have hall := all_of_notMem hname
  unfold readLong
  rw [takeWhile_append_of_stops hall (stops_value value),
    dropWhile_append_of_stops hall (stops_value value)]
  dsimp only
  rw [hs]
  rfl

/-- A flag has no value. -/
theorem readLong_flag (o : Options) {name : List Char} {f : Flag} (hname : '=' ∉ name)
    (hf : longMeaning? (String.ofList name) = some (.flag f)) :
    o.readLong name = o.setFlag f >>= fun o => pure (o, none) := by
  have hall := all_of_notMem hname
  have htake : name.takeWhile (· != '=') = name := List.takeWhile_eq_self_iff.2 hall
  have hdrop : name.dropWhile (· != '=') = [] := List.dropWhile_eq_nil_iff.2 hall
  unfold readLong
  rw [htake, hdrop]
  dsimp only
  rw [hf]
  rfl

/-- A flag is set by its name. -/
theorem readFrom_flag {o : Options} {f : Flag} (h : o.has f = false) (rest : List String) :
    o.readFrom none (f.name :: rest) = { o with flags := o.flags ++ [f] }.readFrom none rest := by
  obtain ⟨name, hname, hne, hequals, hmeaning⟩ := f.exists_name_eq
  have hset : o.setFlag f = .ok { o with flags := o.flags ++ [f] } := by
    rw [setFlag, h]
    rfl
  rw [hname, readFrom_long o hne, readLong_flag o hequals hmeaning, hset]
  rfl

/-- A kind is asked for by its name. -/
theorem readFrom_only (o : Options) (k : Kind) (rest : List String) :
    o.readFrom none (("--only=" ++ k.name) :: rest) =
      { o with only := o.only ++ [k] }.readFrom none rest := by
  have hname : "--only=" ++ k.name =
      String.ofList ('-' :: '-' :: ("only".toList ++ '=' :: k.name.toList)) := by
    simp [← String.toList_inj]
  have hkinds : readKinds k.name = .ok [k] := by
    cases k <;> rfl
  have hset : o.setValue k.name .only = .ok { o with only := o.only ++ [k] } := by
    rw [setValue, hkinds]
  rw [hname, readFrom_long o (by simp), readLong_value o (by decide) rfl, String.ofList_toList,
    hset]
  rfl

/-- The text to scan is given as it is. -/
theorem readFrom_eval {o : Options} (h : o.eval = none) (text : String) (rest : List String) :
    o.readFrom none (("--eval=" ++ text) :: rest) =
      { o with eval := some text }.readFrom none rest := by
  have hname : "--eval=" ++ text =
      String.ofList ('-' :: '-' :: ("eval".toList ++ '=' :: text.toList)) := by
    simp [← String.toList_inj]
  have hset : o.setValue text .eval = .ok { o with eval := some text } := by
    rw [setValue, h]
    rfl
  rw [hname, readFrom_long o (by simp), readLong_value o (by decide) rfl, String.ofList_toList,
    hset]
  rfl

/-- A file is named behind two hyphens, whatever its name looks like. -/
theorem readFrom_file {o : Options} (h : o.file = none) {path : String} (hpath : path ≠ "") :
    o.readFrom none ["--", path] = .ok { o with file := some path } := by
  have hset : o.setFile path = .ok { o with file := some path } := by
    rw [setFile, h, if_neg (by simp), if_neg (by simpa using hpath)]
  show [path].foldlM setFile o = _
  rw [List.foldlM_cons, hset]
  rfl

/-- Flags are set one after the other. -/
theorem readFrom_flags {o : Options} {fs : List Flag} (h : (o.flags ++ fs).Nodup)
    (rest : List String) :
    o.readFrom none (fs.map Flag.name ++ rest) =
      { o with flags := o.flags ++ fs }.readFrom none rest := by
  induction fs generalizing o with
  | nil => rw [List.append_nil]; rfl
  | cons f fs ih =>
    have hnew : o.has f = false := by
      have hdisjoint := (List.nodup_append.1 h).2.2
      simpa [has] using fun hf => hdisjoint f hf f List.mem_cons_self rfl
    have hsplit : o.flags ++ f :: fs = o.flags ++ [f] ++ fs := by simp
    rw [hsplit] at h ⊢
    rw [List.map_cons, List.cons_append, readFrom_flag hnew]
    exact ih h

/-- Kinds are asked for one after the other. -/
theorem readFrom_onlys (o : Options) (kinds : List Kind) (rest : List String) :
    o.readFrom none (kinds.map (fun k => "--only=" ++ k.name) ++ rest) =
      { o with only := o.only ++ kinds }.readFrom none rest := by
  induction kinds generalizing o with
  | nil => rw [List.append_nil]; rfl
  | cons k kinds ih =>
    have hsplit : o.only ++ k :: kinds = o.only ++ [k] ++ kinds := by simp
    rw [List.map_cons, List.cons_append, readFrom_only, hsplit]
    exact ih _

/-- The arguments that ask for some options are read back as these options. -/
theorem read_arguments {o : Options} (h : o.IsValid) : read o.arguments = .ok o := by
  obtain ⟨file, eval, only, flags⟩ := o
  have hflags := fun rest => @readFrom_flags {} flags (by simpa using h.nodup) rest
  have hkinds := fun rest => readFrom_onlys (Options.mk none none [] flags) only rest
  have hread : readFrom {} none (arguments ⟨file, eval, only, flags⟩) =
      .ok ⟨file, eval, only, flags⟩ := by
    unfold arguments
    rw [List.append_assoc, List.append_assoc, hflags]
    refine (hkinds _).trans ?_
    cases eval with
    | some text =>
      obtain rfl : file = none := by simpa using h.file_or_eval
      exact readFrom_eval rfl text []
    | none =>
      cases file with
      | none => rfl
      | some path => exact readFrom_file rfl fun hempty => h.file_ne (congrArg some hempty)
  have hone : (file.isSome && eval.isSome) = false := by
    obtain rfl | rfl := h.file_or_eval
    · rfl
    · exact Bool.and_false _
  rw [read, hread]
  exact if_neg (by simp [hone])

end Options

end LogicLexer.CommandLine
