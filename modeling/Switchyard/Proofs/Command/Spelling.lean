import Switchyard.Command.Arguments
import Switchyard.Proofs.Number.Natural

namespace Switchyard

/-- A list made of two others, each of them kept in order. -/
inductive Interleaves {α : Type} : List α → List α → List α → Prop
  | nil : Interleaves [] [] []
  | left (x : α) {xs ys zs : List α} : Interleaves xs ys zs → Interleaves (x :: xs) ys (x :: zs)
  | right (y : α) {xs ys zs : List α} : Interleaves xs ys zs → Interleaves xs (y :: ys) (y :: zs)

namespace Interleaves

variable {α β : Type} {xs ys zs : List α} {f : α → Option β} {x : α}

theorem swap (h : Interleaves xs ys zs) : Interleaves ys xs zs := by
  induction h with
  | nil => exact .nil
  | left x _ ih => exact .right x ih
  | right y _ ih => exact .left y ih

theorem append (xs ys : List α) : Interleaves xs ys (xs ++ ys) := by
  induction xs with
  | nil =>
    induction ys with
    | nil => exact .nil
    | cons y ys ih => exact .right y ih
  | cons x xs ih => exact .left x ih

theorem mem_iff (h : Interleaves xs ys zs) : x ∈ zs ↔ x ∈ xs ∨ x ∈ ys := by
  induction h with
  | nil => simp
  | left x _ ih => simp only [List.mem_cons, ih, or_assoc]
  | right y _ ih => simp only [List.mem_cons, ih, or_left_comm]

theorem filterMap_left (h : Interleaves xs ys zs) (hy : ∀ y ∈ ys, f y = none) :
    zs.filterMap f = xs.filterMap f := by
  induction h with
  | nil => rfl
  | left x _ ih => rw [List.filterMap_cons, List.filterMap_cons, ih hy]
  | right y _ ih =>
    rw [List.filterMap_cons_none (hy y List.mem_cons_self)]
    exact ih fun z hz => hy z (List.mem_cons_of_mem y hz)

end Interleaves

namespace Argument

variable {text flag : String} {line rest pre post : List String} {args more : List Argument}
  {a : Argument} {n : Nat}

/-- A word that is neither in the form of a long option nor the short one. -/
def IsPlain (text : String) : Prop := ¬ "--".toList <+: text.toList ∧ text ≠ "-h"

instance (text : String) : Decidable (IsPlain text) := inferInstanceAs (Decidable (_ ∧ _))

inductive Writes : Argument → List String → Prop
  | root (directory : String) : Writes (.root (.ofString directory)) ["--root", directory]
  | wait {text : String} {n : Nat} (h : Natural.IsNumeral (Nat.pow 2 64) text.toList n) :
    Writes (.wait n) ["--wait-ms", text]
  | dryRun : Writes .dryRun ["--dry-run"]
  | short : Writes .help ["-h"]
  | long : Writes .help ["--help"]
  | word {text : String} (h : IsPlain text) : Writes (.word text) [text]

/-- A line that has the words of some arguments one after the other. -/
inductive Spells : List Argument → List String → Prop
  | nil : Spells [] []
  | cons {a : Argument} {args : List Argument} {words line : List String} :
    Writes a words → Spells args line → Spells (a :: args) (words ++ line)

def TakesValue (text : String) : Prop := text = "--root" ∨ text = "--wait-ms"

inductive Complete : List String → Prop
  | nil : Complete []
  | value {text : String} (value : String) {line : List String} :
    TakesValue text → Complete line → Complete (text :: value :: line)
  | word {text : String} {line : List String} :
    ¬ TakesValue text → Complete line → Complete (text :: line)

theorem isOption_iff : isOption text = true ↔ "--".toList <+: text.toList := by
  unfold isOption
  split
  · rename_i rest h
    exact iff_of_true rfl (h ▸ ⟨rest, rfl⟩)
  · rename_i h
    refine iff_of_false (by decide) fun ⟨rest, hr⟩ => h rest ?_
    rw [← hr]
    rfl

theorem readWait_eq_ok_iff :
    readWait text = .ok n ↔ Natural.IsNumeral (Nat.pow 2 64) text.toList n := by
  rw [← Natural.read_eq_ok_iff (by decide), readWait]
  cases Natural.read (Nat.pow 2 64) text.toList with
  | error e => exact iff_of_false nofun nofun
  | ok m => rw [Except.ok.injEq, Except.ok.injEq]

theorem read_plain (h : IsPlain text) :
    read (text :: rest) = (read rest).map (.word text :: ·) := by
  have hne : ∀ option : String, "--".toList <+: option.toList → text ≠ option := by
    rintro option ho rfl
    exact h.1 ho
  rw [read.eq_def]
  dsimp only
  rw [if_neg (hne _ (by decide)), if_neg (hne _ (by decide)), if_neg (hne _ (by decide)),
    if_neg (not_or.2 ⟨h.2, hne _ (by decide)⟩), if_neg fun ho => h.1 (isOption_iff.1 ho)]

theorem Writes.read_append (h : Writes a line) :
    read (line ++ rest) = (read rest).map (a :: ·) := by
  cases h with
  | root directory => rw [List.cons_append, List.cons_append, read.eq_def]; rfl
  | @wait text n hn =>
    rw [List.cons_append, List.cons_append, read.eq_def]
    dsimp only
    rw [if_neg (by decide), if_pos rfl, readWait_eq_ok_iff.2 hn]
    rfl
  | dryRun => rw [List.cons_append, read.eq_def]; rfl
  | short => rw [List.cons_append, read.eq_def]; rfl
  | long => rw [List.cons_append, read.eq_def]; rfl
  | word hp => exact read_plain hp

theorem Spells.read (h : Spells args line) : Argument.read line = .ok args := by
  induction h with
  | nil => rfl
  | cons hw _ ih =>
    rw [hw.read_append, ih]
    rfl

theorem Writes.cons_of_read {words : List String} (hw : Writes a words)
    (ih : ∀ {args}, read rest = .ok args → Spells args rest)
    (h : (read rest).map (a :: ·) = .ok args) : Spells args (words ++ rest) := by
  cases hr : read rest with
  | error e =>
    rw [hr] at h
    cases h
  | ok more =>
    rw [hr] at h
    cases h
    exact .cons hw (ih hr)

theorem spells_of_read (h : read line = .ok args) : Spells args line := by
  fun_induction read line generalizing args with
  | case1 => cases h; exact .nil
  | case2 | case4 | case5 | case9 => cases h
  | case3 directory rest ih => exact (Writes.root directory).cons_of_read ih h
  | case6 text rest n hn _ ih => exact (Writes.wait <| readWait_eq_ok_iff.1 hn).cons_of_read ih h
  | case7 rest _ _ ih => exact Writes.dryRun.cons_of_read ih h
  | case8 text rest _ _ _ hhelp ih =>
    obtain rfl | rfl := hhelp
    · exact Writes.short.cons_of_read ih h
    · exact Writes.long.cons_of_read ih h
  | case10 text rest _ _ _ hhelp hno ih =>
    have hp : IsPlain text := ⟨fun ho => hno (isOption_iff.2 ho), fun he => hhelp (.inl he)⟩
    exact (Writes.word hp).cons_of_read ih h

theorem read_eq_ok_iff : read line = .ok args ↔ Spells args line :=
  ⟨spells_of_read, Spells.read⟩

theorem IsPlain.not_takesValue (h : IsPlain text) : ¬ TakesValue text := by
  rintro (rfl | rfl)
  · exact h.1 (by decide)
  · exact h.1 (by decide)

theorem Spells.first_word (h : Spells args (text :: rest)) :
    (TakesValue text ∧ ∃ value line more, rest = value :: line ∧ Spells more line) ∨
      (¬ TakesValue text ∧ (text ∈ ["--dry-run", "-h", "--help"] ∨ IsPlain text) ∧
        ∃ more, Spells more rest) := by
  generalize hl : text :: rest = line at h
  cases h with
  | nil => cases hl
  | @cons a args words line hw ht =>
    cases hw with
    | root directory =>
      cases hl
      exact .inl ⟨.inl rfl, directory, line, args, rfl, ht⟩
    | @wait value n hn =>
      cases hl
      exact .inl ⟨.inr rfl, value, line, args, rfl, ht⟩
    | dryRun | short | long =>
      cases hl
      exact .inr ⟨by unfold TakesValue; decide, .inl (by decide), args, ht⟩
    | word hp =>
      cases hl
      exact .inr ⟨hp.not_takesValue, .inr hp, args, ht⟩

/-- A word in the form of an option that is none stands in a line only as a value. -/
theorem Complete.not_spells (hpre : Complete pre) (hf : "--".toList <+: flag.toList)
    (hu : flag ∉ ["--root", "--wait-ms", "--dry-run", "--help"]) :
    ¬ Spells args (pre ++ flag :: post) := by
  induction hpre generalizing args with
  | nil =>
    intro h
    obtain ⟨rfl | rfl, -⟩ | ⟨-, ho | hp, -⟩ := h.first_word
    · exact hu (by decide)
    · exact hu (by decide)
    · simp only [List.mem_cons, List.not_mem_nil, or_false] at ho
      obtain rfl | rfl | rfl := ho
      · exact hu (by decide)
      · exact absurd hf (by decide)
      · exact hu (by decide)
    · exact hp.1 hf
  | value value ht _ ih =>
    intro h
    obtain ⟨-, _, _, more, hl, hm⟩ | ⟨hn, -⟩ := h.first_word
    · cases hl
      exact ih hm
    · exact hn ht
  | word ht _ ih =>
    intro h
    obtain ⟨hv, -⟩ | ⟨-, -, more, hm⟩ := h.first_word
    · exact ht hv
    · exact ih hm

end Argument

namespace Invocation
open Argument

variable {root : Option String} {n : Nat} {dryRun : Bool} {command : Command}
  {options words args : List Argument} {line pre post : List String} {flag : String}

/-- The options of an invocation in any order. The usual wait need not be given. -/
def Options (root : Option String) (n : Nat) (dryRun : Bool) (options : List Argument) : Prop :=
  ∃ waits, (waits = [.wait n] ∨ waits = [] ∧ n = defaultWaitMs) ∧
    options.Perm ((root.map fun directory => .root (.ofString directory)).toList ++ waits ++
      if dryRun then [.dryRun] else [])

/-- The other arguments of a command. Nothing at all asks for help, and so does an option for it
among any words. -/
inductive Words (n : Nat) (dryRun : Bool) : Command → List Argument → Prop
  | diagnostics {files : List String} (h : files ≠ []) :
    Words n dryRun (.diagnostics (files.map .ofString) n) (.word "diagnostics" :: files.map .word)
  | prewarm : Words n dryRun (.prewarm dryRun) [.word "prewarm"]
  | servers : Words n dryRun .servers [.word "servers"]
  | help : Words n dryRun .help [.word "help"]
  | nothing : Words n dryRun .help []
  | asked {texts texts' : List String} :
    Words n dryRun .help (texts.map .word ++ .help :: texts'.map .word)

/-- A line that spells an invocation: its options stand anywhere among the other words. -/
def Spelled (root : Option String) (command : Command) (line : List String) : Prop :=
  ∃ n dryRun options words args, Options root n dryRun options ∧ Words n dryRun command words ∧
    Interleaves options words args ∧ Spells args line

theorem getLast?_of_perm {α : Type} {l : List α} {x : Option α} (h : l.Perm x.toList) :
    l.getLast? = x := by
  cases x with
  | none => rw [List.perm_nil.1 h]; rfl
  | some x => rw [List.perm_singleton.1 h]; rfl

namespace Options

theorem root_eq (h : Options root n dryRun options) :
    (options.filterMap root?).getLast? = root.map .ofString := by
  obtain ⟨waits, hw, hp⟩ := h
  refine getLast?_of_perm ((hp.filterMap root?).trans (List.Perm.of_eq ?_))
  obtain rfl | ⟨rfl, -⟩ := hw <;> cases root <;> cases dryRun <;> rfl

theorem wait_eq (h : Options root n dryRun options) :
    (options.filterMap wait?).getLast?.getD defaultWaitMs = n := by
  obtain ⟨waits, rfl | ⟨rfl, rfl⟩, hp⟩ := h
  · have hl : (options.filterMap wait?).getLast? = some n := by
      refine getLast?_of_perm ((hp.filterMap wait?).trans (List.Perm.of_eq ?_))
      cases root <;> cases dryRun <;> rfl
    rw [hl]
    rfl
  · have hl : (options.filterMap wait?).getLast? = none := by
      refine getLast?_of_perm ((hp.filterMap wait?).trans (List.Perm.of_eq ?_))
      cases root <;> cases dryRun <;> rfl
    rw [hl]
    rfl

theorem mem_cases (h : Options root n dryRun options) {a : Argument} (ha : a ∈ options) :
    (∃ directory, a = .root (.ofString directory)) ∨ a = .wait n ∨ a = .dryRun := by
  obtain ⟨waits, hw, hp⟩ := h
  obtain (hr | hn) | hd := (List.mem_append.1 (hp.mem_iff.1 ha)).imp_left List.mem_append.1
  · obtain ⟨directory, -, rfl⟩ := Option.map_eq_some_iff.1 (Option.mem_toList.1 hr)
    exact .inl ⟨directory, rfl⟩
  · obtain rfl | ⟨rfl, -⟩ := hw
    · exact .inr (.inl (List.mem_singleton.1 hn))
    · cases hn
  · cases dryRun with
    | false => cases hd
    | true => exact .inr (.inr (List.mem_singleton.1 hd))

theorem dryRun_mem_iff (h : Options root n dryRun options) : .dryRun ∈ options ↔ dryRun = true := by
  obtain ⟨waits, hw, hp⟩ := h
  rw [hp.mem_iff]
  obtain rfl | ⟨rfl, -⟩ := hw <;> cases root <;> cases dryRun <;> simp

end Options

namespace Words

theorem mem_cases (h : Words n dryRun command words) {a : Argument} (ha : a ∈ words) :
    a = .help ∨ ∃ text, a = .word text := by
  cases h with
  | @diagnostics files _ =>
    obtain rfl | ha := List.mem_cons.1 ha
    · exact .inr ⟨_, rfl⟩
    · obtain ⟨file, -, rfl⟩ := List.mem_map.1 ha
      exact .inr ⟨file, rfl⟩
  | prewarm | servers | help => exact .inr ⟨_, List.mem_singleton.1 ha⟩
  | nothing => cases ha
  | @asked texts texts' =>
    obtain ha | ha := List.mem_append.1 ha
    · obtain ⟨text, -, rfl⟩ := List.mem_map.1 ha
      exact .inr ⟨text, rfl⟩
    obtain rfl | ha := List.mem_cons.1 ha
    · exact .inl rfl
    · obtain ⟨text, -, rfl⟩ := List.mem_map.1 ha
      exact .inr ⟨text, rfl⟩

theorem texts_eq (files : List String) : (files.map Argument.word).filterMap word? = files := by
  rw [List.filterMap_map]
  exact List.filterMap_some

theorem commandOf_eq (h : Words n dryRun command words) :
    commandOf n dryRun (if .help ∈ words then [] else words.filterMap word?) = .ok command := by
  cases h with
  | @diagnostics files hne =>
    have hno : Argument.help ∉ Argument.word "diagnostics" :: files.map .word := by simp
    have htexts :
        (.word "diagnostics" :: files.map .word).filterMap word? = "diagnostics" :: files :=
      congrArg ("diagnostics" :: ·) (texts_eq files)
    have he : files.isEmpty = false := by simpa using hne
    rw [if_neg hno, htexts, commandOf, if_neg (by decide), if_pos rfl, he]
    rfl
  | prewarm | servers | help | nothing => rfl
  | asked =>
    rw [if_pos (List.mem_append_right _ List.mem_cons_self)]
    rfl

end Words

theorem ofArguments_interleaved (ho : Options root n dryRun options)
    (hw : Words n dryRun command words) (h : Interleaves options words args) :
    ofArguments args = .ok { root := root.map .ofString, command } := by
  -- No option is a word, so each part of the invocation sees only one of the two lists.
  have hroot : args.filterMap root? = options.filterMap root? := by
    refine h.filterMap_left fun a ha => ?_
    obtain rfl | ⟨text, rfl⟩ := hw.mem_cases ha <;> rfl
  have hwait : args.filterMap wait? = options.filterMap wait? := by
    refine h.filterMap_left fun a ha => ?_
    obtain rfl | ⟨text, rfl⟩ := hw.mem_cases ha <;> rfl
  have hword : args.filterMap word? = words.filterMap word? := by
    refine h.swap.filterMap_left fun a ha => ?_
    obtain ⟨directory, rfl⟩ | rfl | rfl := ho.mem_cases ha <;> rfl
  have hhelp : .help ∈ args ↔ .help ∈ words := by
    refine h.mem_iff.trans (or_iff_right fun ha => ?_)
    obtain ⟨directory, hd⟩ | hd | hd := ho.mem_cases ha <;> cases hd
  have hdry : .dryRun ∈ args ↔ dryRun = true := by
    refine h.mem_iff.trans (Iff.trans (or_iff_left fun ha => ?_) ho.dryRun_mem_iff)
    obtain hd | ⟨text, hd⟩ := hw.mem_cases ha <;> cases hd
  simp only [ofArguments, hroot, ho.root_eq, hwait, ho.wait_eq, hword, hhelp, hdry,
    Bool.decide_eq_true, hw.commandOf_eq]
  rfl

theorem Spelled.read_eq (h : Spelled root command line) :
    read line = .ok { root := root.map .ofString, command } := by
  obtain ⟨n, dryRun, options, words, args, ho, hw, hi, hs⟩ := h
  rw [read, hs.read]
  exact ofArguments_interleaved ho hw hi

/-- The commands that can be asked for: files must be plain words, and there must be some. -/
inductive Sayable : Command → Prop
  | diagnostics {files : List String} {n : Nat} (hne : files ≠ [])
    (h : ∀ file ∈ files, IsPlain file)
    (hn : n < Nat.pow 2 64) : Sayable (.diagnostics (files.map .ofString) n)
  | prewarm (dryRun : Bool) : Sayable (.prewarm dryRun)
  | servers : Sayable .servers
  | help : Sayable .help

theorem exists_spells (h : ∀ a ∈ args, ∃ words, Writes a words) : ∃ line, Spells args line := by
  induction args with
  | nil => exact ⟨[], .nil⟩
  | cons a args ih =>
    obtain ⟨words, hw⟩ := h a List.mem_cons_self
    obtain ⟨line, hs⟩ := ih fun b hb => h b (List.mem_cons_of_mem a hb)
    exact ⟨words ++ line, .cons hw hs⟩

theorem exists_writes_wait (h : n < Nat.pow 2 64) : ∃ words, Writes (.wait n) words := by
  refine ⟨["--wait-ms", .ofList (Nat.toDigits 10 n)], .wait ?_⟩
  rw [String.toList_ofList]
  exact Natural.isNumeral_toDigits h

theorem Sayable.exists_words (h : Sayable command) : ∃ n dryRun words, n < Nat.pow 2 64 ∧
    Words n dryRun command words ∧ ∀ a ∈ words, ∃ texts, Writes a texts := by
  have hname : ∀ name ∈ ["diagnostics", "prewarm", "servers"], IsPlain name := by decide
  cases h with
  | @diagnostics files n hne hfiles hn =>
    refine ⟨n, false, _, hn, .diagnostics hne, fun a ha => ?_⟩
    obtain rfl | ha := List.mem_cons.1 ha
    · exact ⟨_, .word (hname _ (by decide))⟩
    · obtain ⟨file, hf, rfl⟩ := List.mem_map.1 ha
      exact ⟨_, .word (hfiles file hf)⟩
  | prewarm dryRun =>
    refine ⟨0, dryRun, _, by decide, .prewarm, fun a ha => ?_⟩
    rw [List.mem_singleton.1 ha]
    exact ⟨_, .word (hname _ (by decide))⟩
  | servers =>
    refine ⟨0, false, _, by decide, .servers, fun a ha => ?_⟩
    rw [List.mem_singleton.1 ha]
    exact ⟨_, .word (hname _ (by decide))⟩
  | help => exact ⟨0, false, [], by decide, .nothing, nofun⟩

theorem Sayable.exists_spelled (root : Option String) (h : Sayable command) :
    ∃ line, Spelled root command line := by
  obtain ⟨n, dryRun, words, hn, hw, hwords⟩ := h.exists_words
  obtain ⟨options, ho⟩ : ∃ options, Options root n dryRun options := ⟨_, _, .inl rfl, .refl _⟩
  have hwrites : ∀ a ∈ options ++ words, ∃ texts, Writes a texts := by
    intro a ha
    obtain ha | ha := List.mem_append.1 ha
    · obtain ⟨directory, rfl⟩ | rfl | rfl := ho.mem_cases ha
      · exact ⟨_, .root directory⟩
      · exact exists_writes_wait hn
      · exact ⟨_, .dryRun⟩
    · exact hwords a ha
  obtain ⟨line, hs⟩ := exists_spells hwrites
  exact ⟨line, n, dryRun, options, words, _, ho, hw, .append options words, hs⟩

theorem read_unknown (hpre : Complete pre) (hf : "--".toList <+: flag.toList)
    (hu : flag ∉ ["--root", "--wait-ms", "--dry-run", "--help"]) :
    ∃ e, read (pre ++ flag :: post) = .error e := by
  cases hr : Argument.read (pre ++ flag :: post) with
  | error e => exact ⟨e, by rw [read, hr]; rfl⟩
  | ok args => exact absurd (read_eq_ok_iff.1 hr) (hpre.not_spells hf hu)

/-- A line is read as the invocation that it spells, wherever it has the options, and all that can
be asked for can be spelled. No line is read that has a word in the form of an option, other than
the options there are, where no option takes it for its value. -/
theorem spelled_in_any_order :
    (∀ root command line, Spelled root command line →
      read line = .ok { root := root.map .ofString, command }) ∧
    (∀ root command, Sayable command → ∃ line, Spelled root command line) ∧
    ∀ pre flag post, Complete pre → "--".toList <+: flag.toList →
      flag ∉ ["--root", "--wait-ms", "--dry-run", "--help"] →
      ∃ e, read (pre ++ flag :: post) = .error e :=
  ⟨fun _ _ _ => Spelled.read_eq, fun root _ => Sayable.exists_spelled root,
    fun _ _ _ => read_unknown⟩

/-- The options stand between the words, and a directory can look like an option. -/
theorem spelled_in_any_order_two_files :
    (Spelled (some "--dry-run") (.diagnostics (["a.ts", "b.ts"].map .ofString) 500)
        ["--wait-ms", "+0500", "diagnostics", "a.ts", "--root", "--dry-run", "b.ts"] ∧
      read ["--wait-ms", "+0500", "diagnostics", "a.ts", "--root", "--dry-run", "b.ts"] =
        .ok ⟨some (.ofString "--dry-run"), .diagnostics (["a.ts", "b.ts"].map .ofString) 500⟩) ∧
    (Sayable (.prewarm true) ∧ ∃ line, Spelled (some "--help") (.prewarm true) line) ∧
    Complete ["prewarm", "--root", "--verbose"] ∧
      ∃ e, read (["prewarm", "--root", "--verbose"] ++ "--verbose" :: ["servers"]) = .error e := by
  have hs : Spelled (some "--dry-run") (.diagnostics (["a.ts", "b.ts"].map .ofString) 500)
      ["--wait-ms", "+0500", "diagnostics", "a.ts", "--root", "--dry-run", "b.ts"] := by
    refine ⟨500, false, [.wait 500, .root (.ofString "--dry-run")],
      .word "diagnostics" :: ["a.ts", "b.ts"].map .word, _, ⟨_, .inl rfl, .swap ..⟩,
      .diagnostics (by decide),
      .left _ (.right _ (.right _ (.left _ (.right _ .nil)))), ?_⟩
    have hdigits : "0500".toList.all (·.isDigit) = true := by decide
    have hn : Natural.IsNumeral (Nat.pow 2 64) "+0500".toList 500 :=
      ⟨"0500".toList, .inr rfl, by decide, List.all_eq_true.1 hdigits, by decide, by decide⟩
    exact .cons (.wait hn) (.cons (.word (by decide)) (.cons (.word (by decide))
      (.cons (.root "--dry-run") (.cons (.word (by decide)) .nil))))
  have hc : Complete ["prewarm", "--root", "--verbose"] :=
    .word (by unfold TakesValue; decide) (.value "--verbose" (.inl rfl) .nil)
  exact ⟨⟨hs, spelled_in_any_order.1 _ _ _ hs⟩,
    ⟨.prewarm true, spelled_in_any_order.2.1 (some "--help") _ (.prewarm true)⟩,
    hc, spelled_in_any_order.2.2 _ "--verbose" ["servers"] hc (by decide) (by decide)⟩

end Invocation
end Switchyard
