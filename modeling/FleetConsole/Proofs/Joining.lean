import FleetConsole.Json.Lexeme

/-!
# Lexemes of joined texts

White space and the marks of lists and objects separate lexemes: such a character ends the lexeme
before it, whatever it is, and begins none of more than one character.  So a text may be cut at a
separator, and its lexemes are those of the two parts (`lexemes_append_separator`), provided that
nothing in the first part makes the reading stop.

The other way round, wherever a mark is among the lexemes of a text, it is in the text too, and the
lexemes before and after it are those of the text before and after it (`exists_of_lexemes_eq`).
-/

namespace FleetConsole.Json

/-! ## Separators -/

/-- The lexeme of a character that is one by itself. -/
def mark? : Char → Option Lexeme
  | '{' => some .openBrace
  | '}' => some .closeBrace
  | '[' => some .openBracket
  | ']' => some .closeBracket
  | ',' => some .comma
  | ':' => some .colon
  | _ => none

/-- The lexemes of a character that separates lexemes. -/
def separator? (c : Char) : Option (List Lexeme) :=
  if isSpace c then some [] else (mark? c).map fun mark => [mark]

namespace Lexeme

/-- A lexeme after which the reading goes on. -/
def isSound : Lexeme → Bool
  | .string q => q.flaw.isNone
  | .broken _ | .stray => false
  | _ => true

def isMark : Lexeme → Bool
  | .openBrace | .closeBrace | .openBracket | .closeBracket | .comma | .colon => true
  | _ => false

theorem isMark_eq_false_of_isSound {l : Lexeme} (h : l.isSound = false) : l.isMark = false := by
  cases l <;> first | rfl | cases h

end Lexeme

theorem isMark_of_mark? {c : Char} {mark : Lexeme} (h : mark? c = some mark) : mark.isMark = true := by
  unfold mark? at h
  split at h <;> cases h <;> rfl

theorem eq_of_mark? {c other : Char} {mark : Lexeme} (h : mark? c = some mark)
    (hother : mark? other = some mark) : c = other := by
  unfold mark? at h hother
  split at h <;> cases h <;> split at hother <;> cases hother <;> rfl

theorem separator?_of_isSpace {c : Char} (h : isSpace c = true) : separator? c = some [] := by
  rw [separator?, if_pos h]

theorem isSpace_of_separator? {c : Char} (h : separator? c = some []) : isSpace c = true := by
  unfold separator? at h
  split at h
  · assumption
  · cases hmark : mark? c <;> simp [hmark] at h

theorem separator?_of_mark? {c : Char} {mark : Lexeme} (h : mark? c = some mark) :
    separator? c = some [mark] := by
  have hspace : isSpace c ≠ true := by
    unfold mark? at h
    split at h <;> first | decide | cases h
  rw [separator?, if_neg hspace, h]
  rfl

/-- What a number needs to know about the character after it. -/
theorem ends_number_of_separator? {c : Char} {ls : List Lexeme} (h : separator? c = some ls) :
    Text.digit? c = none ∧ c ≠ '.' ∧ c ≠ 'e' ∧ c ≠ 'E' := by
  unfold separator? at h
  split at h
  · rename_i hspace
    simp only [isSpace, Bool.or_eq_true, decide_eq_true_eq] at hspace
    rcases hspace with ((rfl | rfl) | rfl) | rfl <;> decide
  · unfold mark? at h
    split at h <;> first | decide | cases h

/-- Of two ways to cut a list, one before a mark that the first part of the other does not have. -/
theorem exists_of_append_eq {β : Type} {mark : β} {first second before after : List β}
    (hmark : mark ∉ first) (h : first ++ second = before ++ mark :: after) :
    ∃ more, before = first ++ more ∧ second = more ++ mark :: after := by
  obtain ⟨more, rfl, hmore⟩ | ⟨more, rfl, hmore⟩ := List.append_eq_append_iff.mp h
  · exact ⟨more, rfl, hmore⟩
  · cases more with
    | nil => exact ⟨[], by simp, hmore.symm⟩
    | cons other more =>
        obtain ⟨rfl, -⟩ := List.cons.inj hmore
        exact absurd (List.mem_append_right _ (List.mem_cons_self ..)) hmark

namespace Mode

theorem begin_of_separator? {c : Char} {ls : List Lexeme} (h : separator? c = some ls) :
    begin c = (ls, between) := by
  unfold separator? at h
  unfold begin
  split at h
  · rename_i hspace
    rw [if_pos hspace]
    cases h
    rfl
  · rename_i hspace
    rw [if_neg hspace]
    unfold mark? at h
    split at h <;> cases h <;> rfl

/-- A separator completes what has been begun. -/
theorem step_of_separator? {mode : Mode} (hmode : mode ≠ halted)
    (hsound : ∀ l ∈ mode.finish, l.isSound = true) {c : Char} {ls : List Lexeme}
    (h : separator? c = some ls) : mode.step c = (mode.finish ++ ls, between) := by
  have hbegin : begin c = (ls, between) := begin_of_separator? h
  obtain ⟨hdigit, hpoint, hsmall, hcapital⟩ := ends_number_of_separator? h
  cases mode with
  | halted => exact absurd rfl hmode
  | between => exact hbegin
  | word rest result =>
      cases rest with
      | nil => simp only [step, finish, hbegin, List.cons_append, List.nil_append]
      | cons expected rest => exact absurd (hsound _ (List.mem_singleton_self _)) nofun
  | string | escape | unit | badUnit | minus | point | mark | sign =>
      exact absurd (hsound _ (List.mem_singleton_self _)) nofun
  | zero | whole =>
      simp only [step, finish, hdigit, afterWhole, afterNumber, hpoint, hsmall, hcapital, hbegin,
        or_self, if_false, List.cons_append, List.nil_append]
  | fraction =>
      simp only [step, finish, hdigit, afterFraction, afterNumber, hsmall, hcapital, hbegin,
        or_self, if_false, List.cons_append, List.nil_append]
  | exponent =>
      simp only [step, finish, hdigit, afterNumber, hbegin, List.cons_append, List.nil_append]

/-! ## What a character can do -/

/-- Whatever word is begun, it is no mark. -/
def Plain : Mode → Prop
  | word _ result => result.isMark = false
  | _ => True

theorem between_plain : between.Plain := trivial

/-- A lexeme is part way through. -/
structure IsBegun (mode : Mode) : Prop where
  plain : mode.Plain
  ne_between : mode ≠ between
  ne_halted : mode ≠ halted

/-- The ways in which a character can turn out where no lexeme has been begun. -/
inductive Begins (c : Char) : List Lexeme × Mode → Prop
  | separates (ls : List Lexeme) (h : separator? c = some ls) : Begins c (ls, between)
  | goesOn (next : Mode) (h : next.IsBegun) : Begins c ([], next)
  | breaks : Begins c ([.stray], halted)

/-- The ways in which a character can turn out elsewhere. -/
inductive Steps (mode : Mode) (c : Char) : List Lexeme × Mode → Prop
  | goesOn (next : Mode) (h : next.IsBegun) : Steps mode c ([], next)
  | completes (l : Lexeme) (h : l.isMark = false) : Steps mode c ([l], between)
  /-- the lexeme before it ends, and it stands where none has been begun -/
  | ends : Steps mode c (mode.finish ++ (begin c).1, (begin c).2)
  | breaks (l : Lexeme) (h : l.isSound = false) : Steps mode c ([l], halted)

theorem begin_begins (c : Char) : Begins c (begin c) := by
  unfold begin
  split
  · rename_i hspace
    exact .separates [] (by rw [separator?, if_pos hspace])
  · rename_i hspace
    split
    all_goals
      first
      | exact .goesOn _ ⟨trivial, by simp, by simp⟩
      | exact .goesOn _ ⟨rfl, by simp, by simp⟩
      | exact .separates _ (by decide)
      | skip
    split
    · exact .goesOn _ ⟨trivial, by simp, by simp⟩
    · exact .breaks

theorem step_steps {mode : Mode} (hplain : mode.Plain) (hmode : mode ≠ halted) (c : Char) :
    Steps mode c (mode.step c) := by
  cases mode with
  | halted => exact absurd rfl hmode
  | between => exact .ends
  | word rest result =>
      cases rest with
      | nil => exact .ends
      | cons expected rest =>
          simp only [step]
          split
          · split
            · exact .completes result hplain
            · exact .goesOn _ ⟨hplain, by simp, by simp⟩
          · exact .breaks _ rfl
  | string | escape | unit | badUnit | minus | point | mark | sign =>
      simp only [step]
      repeat' split
      all_goals
        first
        | exact .breaks _ rfl
        | exact .completes _ rfl
        | exact .goesOn _ ⟨trivial, by simp, by simp⟩
  | zero | whole | fraction | exponent =>
      simp only [step, afterWhole, afterFraction]
      repeat' split
      all_goals
        first
        | exact .breaks _ rfl
        | exact .goesOn _ ⟨trivial, by simp, by simp⟩
        | exact .ends

variable {mode : Mode} {c : Char} {result : List Lexeme × Mode}

theorem Begins.plain (h : Begins c result) : result.2.Plain := by
  cases h with
  | separates | breaks => trivial
  | goesOn next hbegun => exact hbegun.plain

theorem Steps.plain (h : Steps mode c result) : result.2.Plain := by
  cases h with
  | completes | breaks => trivial
  | goesOn next hbegun => exact hbegun.plain
  | ends => exact (begin_begins c).plain

/-- The reading stops only at a lexeme that says so. -/
theorem Begins.exists_of_halted (h : Begins c result) (hhalted : result.2 = halted) :
    ∃ l ∈ result.1, l.isSound = false := by
  cases h with
  | separates => cases hhalted
  | goesOn next hbegun => exact absurd hhalted hbegun.ne_halted
  | breaks => exact ⟨.stray, List.mem_singleton_self _, rfl⟩

theorem Steps.exists_of_halted (h : Steps mode c result) (hhalted : result.2 = halted) :
    ∃ l ∈ result.1, l.isSound = false := by
  cases h with
  | completes => cases hhalted
  | goesOn next hbegun => exact absurd hhalted hbegun.ne_halted
  | ends =>
      obtain ⟨l, hl, hflawed⟩ := (begin_begins c).exists_of_halted hhalted
      exact ⟨l, List.mem_append_right _ hl, hflawed⟩
  | breaks l hflawed => exact ⟨l, List.mem_singleton_self _, hflawed⟩

/-! ## Cutting at a separator -/

theorem lexemes_append_separator (hplain : mode.Plain) (hmode : mode ≠ halted) {text : List Char}
    (hsound : ∀ l ∈ mode.lexemes text, l.isSound = true) {ls : List Lexeme}
    (h : separator? c = some ls) (rest : List Char) :
    mode.lexemes (text ++ c :: rest) =
      mode.lexemes text ++ (ls ++ between.lexemes rest) := by
  induction text generalizing mode with
  | nil =>
      simp only [List.nil_append, Mode.lexemes, step_of_separator? hmode hsound h,
        List.append_assoc]
  | cons head text ih =>
      rw [Mode.lexemes] at hsound
      have hsteps := step_steps hplain hmode head
      have hnext : (mode.step head).2 ≠ halted := by
        intro hhalted
        obtain ⟨l, hl, hflawed⟩ := hsteps.exists_of_halted hhalted
        rw [hsound l (List.mem_append_left _ hl)] at hflawed
        cases hflawed
      simp only [List.cons_append, Mode.lexemes, List.append_assoc,
        ih hsteps.plain hnext fun l hl => hsound l (List.mem_append_right _ hl)]

/-! ## Marks among the lexemes -/

theorem isMark_of_mem_finish (hplain : mode.Plain) {l : Lexeme} (hl : l ∈ mode.finish) :
    l.isMark = false := by
  cases mode with
  | between | halted => cases hl
  | word rest result =>
      cases rest with
      | nil =>
          obtain rfl := List.mem_singleton.mp hl
          exact hplain
      | cons expected rest =>
          obtain rfl := List.mem_singleton.mp hl
          rfl
  | _ =>
      obtain rfl := List.mem_singleton.mp hl
      rfl

/-- A mark comes from a character that is one. -/
theorem Begins.marks (h : Begins c result) :
    (∀ l ∈ result.1, l.isMark = false) ∨
      ∃ mark, mark? c = some mark ∧ result = ([mark], between) := by
  cases h with
  | goesOn => exact .inl nofun
  | breaks =>
      refine .inl fun l hl => ?_
      obtain rfl := List.mem_singleton.mp hl
      rfl
  | separates ls h =>
      unfold separator? at h
      split at h
      · cases h
        exact .inl nofun
      · obtain ⟨mark, hmark, rfl⟩ := Option.map_eq_some_iff.mp h
        exact .inr ⟨mark, hmark, rfl⟩

theorem Steps.marks (h : Steps mode c result) (hplain : mode.Plain) :
    (∀ l ∈ result.1, l.isMark = false) ∨
      ∃ mark, mark? c = some mark ∧ result = (mode.finish ++ [mark], between) := by
  cases h with
  | goesOn => exact .inl nofun
  | completes l hl =>
      refine .inl fun other hother => ?_
      obtain rfl := List.mem_singleton.mp hother
      exact hl
  | breaks l hl =>
      refine .inl fun other hother => ?_
      obtain rfl := List.mem_singleton.mp hother
      exact Lexeme.isMark_eq_false_of_isSound hl
  | ends =>
      obtain hnone | ⟨mark, hmark, hbegin⟩ := (begin_begins c).marks
      · refine .inl fun l hl => ?_
        obtain hl | hl := List.mem_append.mp hl
        · exact isMark_of_mem_finish hplain hl
        · exact hnone l hl
      · exact .inr ⟨mark, hmark, by rw [hbegin]⟩

theorem lexemes_halted (text : List Char) : halted.lexemes text = [] := by
  induction text with
  | nil => rfl
  | cons c rest ih => exact ih

theorem exists_of_lexemes_eq (hplain : mode.Plain) {text : List Char}
    {before after : List Lexeme} {mark : Lexeme} (hmark : mark.isMark = true)
    (h : mode.lexemes text = before ++ mark :: after) :
    ∃ front c back, text = front ++ c :: back ∧ mark? c = some mark ∧
      mode.lexemes front = before ∧ between.lexemes back = after := by
  induction text generalizing mode before with
  | nil =>
      have hmem : mark ∈ mode.finish := by
        rw [show mode.finish = _ from h]
        exact List.mem_append_right _ (List.mem_cons_self ..)
      rw [isMark_of_mem_finish hplain hmem] at hmark
      cases hmark
  | cons head text ih =>
      by_cases hmode : mode = halted
      · rw [hmode, lexemes_halted] at h
        cases before <;> cases h
      have hsteps := step_steps hplain hmode head
      rw [Mode.lexemes] at h
      obtain hnone | ⟨other, hother, hstep⟩ := hsteps.marks hplain
      · have hnot : mark ∉ (mode.step head).1 := fun hmem => by
          rw [hnone mark hmem] at hmark
          cases hmark
        obtain ⟨more, rfl, hmore⟩ := exists_of_append_eq hnot h
        obtain ⟨front, c, back, rfl, hc, hfront, hback⟩ := ih hsteps.plain hmore
        exact ⟨head :: front, c, back, rfl, hc, by rw [Mode.lexemes, hfront], hback⟩
      · rw [hstep] at h
        have hnot : mark ∉ mode.finish := fun hmem => by
          rw [isMark_of_mem_finish hplain hmem] at hmark
          cases hmark
        rw [List.append_assoc] at h
        obtain ⟨more, rfl, hmore⟩ := exists_of_append_eq hnot h
        cases more with
        | nil =>
            obtain ⟨rfl, rfl⟩ := List.cons.inj hmore
            exact ⟨[], head, text, rfl, hother, (List.append_nil _).symm, rfl⟩
        | cons first more =>
            obtain ⟨rfl, hrest⟩ := List.cons.inj hmore
            obtain ⟨front, c, back, rfl, hc, hfront, hback⟩ := ih between_plain hrest
            refine ⟨head :: front, c, back, rfl, hc, ?_, hback⟩
            rw [Mode.lexemes, hstep, hfront, List.append_assoc, List.singleton_append]

/-! ## White space -/

theorem IsBegun.finish_ne_nil (h : mode.IsBegun) : mode.finish ≠ [] := by
  cases mode with
  | between => exact absurd rfl h.ne_between
  | halted => exact absurd rfl h.ne_halted
  | word rest result => cases rest <;> simp [finish]
  | _ => simp [finish]

/-- What has been begun comes to something. -/
theorem IsBegun.lexemes_ne_nil (h : mode.IsBegun) (text : List Char) : mode.lexemes text ≠ [] := by
  induction text generalizing mode with
  | nil => exact h.finish_ne_nil
  | cons c rest ih =>
      rw [Mode.lexemes]
      have hsteps := step_steps h.plain h.ne_halted c
      generalize mode.step c = result at hsteps
      cases hsteps with
      | goesOn next hnext => exact ih hnext
      | completes | breaks => simp
      | ends => simp [h.finish_ne_nil]

end Mode

/-! ## Texts -/

/-- **A text can be cut at a separator.** -/
theorem lexemes_append_separator {text : List Char} (hsound : ∀ l ∈ lexemes text, l.isSound = true)
    {c : Char} {ls : List Lexeme} (h : separator? c = some ls) (rest : List Char) :
    lexemes (text ++ c :: rest) = lexemes text ++ (ls ++ lexemes rest) :=
  Mode.lexemes_append_separator Mode.between_plain (by simp) hsound h rest

/-- **Where a mark is among the lexemes, it is in the text.** -/
theorem exists_of_lexemes_eq {text : List Char} {before after : List Lexeme} {mark : Lexeme}
    (hmark : mark.isMark = true) (h : lexemes text = before ++ mark :: after) :
    ∃ front c back, text = front ++ c :: back ∧ mark? c = some mark ∧
      lexemes front = before ∧ lexemes back = after :=
  Mode.exists_of_lexemes_eq Mode.between_plain hmark h

/-- A text has no lexemes exactly when it is white space. -/
theorem lexemes_eq_nil_iff (text : List Char) :
    lexemes text = [] ↔ ∀ c ∈ text, isSpace c = true := by
  induction text with
  | nil => exact ⟨fun _ => nofun, fun _ => rfl⟩
  | cons c rest ih =>
      rw [List.forall_mem_cons, ← ih]
      show (Mode.begin c).1 ++ (Mode.begin c).2.lexemes rest = [] ↔ _
      constructor
      · intro h
        obtain ⟨hnone, hrest⟩ := List.append_eq_nil_iff.mp h
        have hbegins := Mode.begin_begins c
        generalize Mode.begin c = result at hbegins hnone hrest
        cases hbegins with
        | separates ls hls =>
            obtain rfl : ls = [] := hnone
            exact ⟨isSpace_of_separator? hls, hrest⟩
        | goesOn next hbegun => exact absurd hrest (hbegun.lexemes_ne_nil rest)
        | breaks => cases hnone
      · rintro ⟨hspace, hrest⟩
        rw [Mode.begin_of_separator? (separator?_of_isSpace hspace)]
        exact hrest

/-- White space before a text makes no difference. -/
theorem lexemes_blank_append {blank : List Char} (h : lexemes blank = []) (text : List Char) :
    lexemes (blank ++ text) = lexemes text := by
  rw [lexemes_eq_nil_iff] at h
  induction blank with
  | nil => rfl
  | cons c blank ih =>
      obtain ⟨hspace, hblank⟩ := List.forall_mem_cons.mp h
      show (Mode.begin c).1 ++ (Mode.begin c).2.lexemes (blank ++ text) = _
      rw [Mode.begin_of_separator? (separator?_of_isSpace hspace)]
      exact ih hblank

/-- White space after a text makes no difference either. -/
theorem lexemes_append_blank {text blank : List Char}
    (hsound : ∀ l ∈ lexemes text, l.isSound = true) (h : lexemes blank = []) :
    lexemes (text ++ blank) = lexemes text := by
  cases blank with
  | nil => rw [List.append_nil]
  | cons c blank =>
      obtain ⟨hspace, hblank⟩ := List.forall_mem_cons.mp ((lexemes_eq_nil_iff _).mp h)
      rw [lexemes_append_separator hsound (separator?_of_isSpace hspace),
        (lexemes_eq_nil_iff blank).mpr hblank, List.append_nil, List.append_nil]

theorem lexemes_cons_mark {c : Char} {mark : Lexeme} (h : mark? c = some mark)
    (text : List Char) : lexemes (c :: text) = mark :: lexemes text := by
  show (Mode.begin c).1 ++ (Mode.begin c).2.lexemes text = _
  rw [Mode.begin_of_separator? (separator?_of_mark? h)]
  rfl

end FleetConsole.Json
