import FleetConsole.Proofs.Joining
import FleetConsole.Json.Document

/-!
# Documents within documents

What is read within a container is read as it would be by itself.  `Due.within` puts what is due into
some containers around it; every lexeme commutes with that (`step_within`), and so does reading as a
whole (`read_within`).

So a complete document is read the same wherever it stands (`read_of_ofLexemes`), and whatever is
complete has a complete part wherever a value was due (`exists_of_read`).
-/

namespace FleetConsole.Json.Document

variable {d document : Document} {flaw : Flaw} {stack base : List Frame}

theorem flaw?_string (q : Quotation) : (string q).flaw? = q.flaw := rfl

theorem enclose_append (flaw : Flaw) (stack base : List Frame) (d : Document) :
    enclose flaw (stack ++ base) d = enclose flaw base (enclose flaw stack d) := by
  induction stack generalizing d with
  | nil => rfl
  | cons frame stack ih => cases frame <;> exact ih _

/-- A flaw goes through all containers. -/
theorem flaw?_enclose (h : d.flaw? = some flaw) (stack : List Frame) :
    (enclose flaw stack d).flaw? = some flaw := by
  induction stack generalizing d with
  | nil => exact h
  | cons frame stack ih => cases frame <;> exact ih rfl

namespace Due

/-- Anything but the end. -/
def IsOpen : Due → Prop
  | nothing _ => False
  | _ => True

theorem isOpen_or (due : Due) : due.IsOpen ∨ ∃ d, due = nothing d := by
  cases due with
  | nothing d => exact .inr ⟨d, rfl⟩
  | _ => exact .inl trivial

/-- What is due, within some containers around it. -/
def within (base : List Frame) : Due → Due
  | value stack => value (stack ++ base)
  | firstElement stack => firstElement (stack ++ base)
  | nextElement done stack => nextElement done (stack ++ base)
  | afterElement done stack => afterElement done (stack ++ base)
  | firstKey stack => firstKey (stack ++ base)
  | nextKey done stack => nextKey done (stack ++ base)
  | colon done key stack => colon done key (stack ++ base)
  | afterMember done stack => afterMember done (stack ++ base)
  | nothing d =>
      match d.flaw? with
      | none => settle d base
      | some flaw => stop d flaw base

variable {due : Due}

theorem within_nothing (h : d.flaw? = none) : (nothing d).within base = settle d base := by
  rw [within, h]

theorem within_settle (h : d.flaw? = none) (stack base : List Frame) :
    (settle d stack).within base = settle d (stack ++ base) := by
  cases stack with
  | nil => exact within_nothing h
  | cons frame stack => cases frame <;> rfl

theorem within_stop (h : d.flaw? = some flaw) (stack base : List Frame) :
    (stop d flaw stack).within base = stop d flaw (stack ++ base) := by
  rw [stop, within, flaw?_enclose h]
  simp only [stop, enclose_append]

theorem atValue_within (stack base : List Frame) (l : Lexeme) :
    atValue (stack ++ base) l = (atValue stack l).within base := by
  cases l with
  | null | boolean | number => exact (within_settle rfl stack base).symm
  | string q =>
      cases hq : q.flaw with
      | none =>
          simp only [atValue, hq]
          exact (within_settle ((flaw?_string q).trans hq) stack base).symm
      | some flaw =>
          simp only [atValue, hq]
          exact (within_stop ((flaw?_string q).trans hq) stack base).symm
  | openBracket | openBrace => rfl
  | closeBrace | closeBracket | comma | colon | broken | stray =>
      exact (within_stop rfl stack base).symm

theorem atKey_within (done : List (Quotation × Document)) (stack base : List Frame) (l : Lexeme) :
    atKey done (stack ++ base) l = (atKey done stack l).within base := by
  cases l with
  | string q =>
      cases hq : q.flaw with
      | none =>
          simp only [atKey, hq]
          rfl
      | some flaw =>
          simp only [atKey, hq]
          exact (within_stop rfl (.member done q :: stack) base).symm
  | _ => exact (within_stop rfl stack base).symm

theorem step_firstElement {l : Lexeme} (h : l ≠ .closeBracket) (stack : List Frame) :
    (firstElement stack).step l = atValue (.list [] :: stack) l := by
  cases l <;> first | rfl | exact absurd rfl h

theorem step_nextElement {l : Lexeme} (h : l ≠ .closeBracket) (done : List Document)
    (stack : List Frame) : (nextElement done stack).step l = atValue (.list done :: stack) l := by
  cases l <;> first | rfl | exact absurd rfl h

theorem step_firstKey {l : Lexeme} (h : l ≠ .closeBrace) (stack : List Frame) :
    (firstKey stack).step l = atKey [] stack l := by
  cases l <;> first | rfl | exact absurd rfl h

theorem step_nextKey {l : Lexeme} (h : l ≠ .closeBrace) (done : List (Quotation × Document))
    (stack : List Frame) : (nextKey done stack).step l = atKey done stack l := by
  cases l <;> first | rfl | exact absurd rfl h

/-- A lexeme does the same within containers. -/
theorem step_within (h : due.IsOpen) (base : List Frame) (l : Lexeme) :
    (due.within base).step l = (due.step l).within base := by
  cases due with
  | nothing => exact h.elim
  | value stack => exact atValue_within stack base l
  | firstElement stack =>
      by_cases hclose : l = .closeBracket
      · subst hclose
        exact (within_settle rfl stack base).symm
      · rw [within, step_firstElement hclose, step_firstElement hclose]
        exact atValue_within (.list [] :: stack) base l
  | nextElement done stack =>
      by_cases hclose : l = .closeBracket
      · subst hclose
        exact (within_stop rfl stack base).symm
      · rw [within, step_nextElement hclose, step_nextElement hclose]
        exact atValue_within (.list done :: stack) base l
  | afterElement done stack =>
      cases l with
      | comma => rfl
      | closeBracket => exact (within_settle rfl stack base).symm
      | _ => exact (within_stop rfl stack base).symm
  | firstKey stack =>
      by_cases hclose : l = .closeBrace
      · subst hclose
        exact (within_settle rfl stack base).symm
      · rw [within, step_firstKey hclose, step_firstKey hclose, atKey_within]
  | nextKey done stack =>
      by_cases hclose : l = .closeBrace
      · subst hclose
        exact (within_stop rfl stack base).symm
      · rw [within, step_nextKey hclose, step_nextKey hclose, atKey_within]
  | colon done key stack =>
      cases l with
      | colon => rfl
      | _ => exact (within_stop rfl (.member done key :: stack) base).symm
  | afterMember done stack =>
      cases l with
      | comma => rfl
      | closeBrace => exact (within_settle rfl stack base).symm
      | _ => exact (within_stop rfl stack base).symm

/-- What is cut short is cut short within containers too. -/
theorem finish_within (h : due.IsOpen) (base : List Frame) :
    nothing (due.within base).finish = (nothing due.finish).within base := by
  cases due with
  | nothing => exact h.elim
  | value stack | firstElement stack | nextElement done stack | afterElement done stack
  | firstKey stack | nextKey done stack | afterMember done stack =>
      exact (within_stop rfl stack base).symm
  | colon done key stack => exact (within_stop rfl (.member done key :: stack) base).symm

theorem IsOpen.within (h : due.IsOpen) (base : List Frame) : (due.within base).IsOpen := by
  cases due with
  | nothing => exact h.elim
  | _ => trivial

theorem read_nil (due : Due) : due.read [] = (due.finish, []) := by
  cases due <;> rfl

theorem read_cons (h : due.IsOpen) (l : Lexeme) (ls : List Lexeme) :
    due.read (l :: ls) = (due.step l).read ls := by
  cases due with
  | nothing => exact h.elim
  | _ => rfl

theorem read_nothing (d : Document) (ls : List Lexeme) : (nothing d).read ls = (d, ls) := by
  cases ls <;> rfl

/-- The first key is read as any other. -/
theorem read_firstKey {l : Lexeme} (h : l ≠ .closeBrace) (stack : List Frame)
    (ls : List Lexeme) : (firstKey stack).read (l :: ls) = (nextKey [] stack).read (l :: ls) := by
  show ((firstKey stack).step l).read ls = ((nextKey [] stack).step l).read ls
  rw [step_firstKey h, step_nextKey h]

/-- **Reading within containers is reading, put into the containers.** -/
theorem read_within (base : List Frame) (due : Due) (ls : List Lexeme) :
    (due.within base).read ls = ((nothing (due.read ls).1).within base).read (due.read ls).2 := by
  induction ls generalizing due with
  | nil =>
      obtain hopen | ⟨d, rfl⟩ := due.isOpen_or
      · rw [read_nil due, ← finish_within hopen, read_nothing, read_nil]
      · rw [read_nothing]
  | cons l ls ih =>
      obtain hopen | ⟨d, rfl⟩ := due.isOpen_or
      · rw [read_cons (hopen.within base), step_within hopen, ih, read_cons hopen]
      · rw [read_nothing]

/-! ## Complete documents -/

theorem flaw?_enclose_ne_none (h : d.flaw? = some flaw) (stack : List Frame) :
    (enclose flaw stack d).flaw? ≠ none := by
  rw [flaw?_enclose h]
  nofun

/-- What is cut short is not complete. -/
theorem flaw?_finish (h : due.IsOpen) : due.finish.flaw? ≠ none := by
  cases due with
  | nothing => exact h.elim
  | _ => exact flaw?_enclose_ne_none rfl _

/-- A complete document takes a lexeme wherever something is due. -/
theorem exists_cons_of_read {ls rest : List Lexeme} (hread : due.read ls = (d, rest))
    (h : due.IsOpen) (hd : d.flaw? = none) :
    ∃ l tail, ls = l :: tail ∧ (due.step l).read tail = (d, rest) := by
  cases ls with
  | nil =>
      rw [read_nil] at hread
      obtain ⟨rfl, -⟩ := Prod.mk.inj hread
      exact absurd hd (flaw?_finish h)
  | cons l tail =>
      rw [read_cons h] at hread
      exact ⟨l, tail, rfl, hread⟩

theorem exists_of_atValue {l : Lexeme} (hl : l.isSound = false) (stack : List Frame) :
    ∃ d, atValue stack l = nothing d ∧ d.flaw? ≠ none := by
  cases l with
  | string q =>
      cases hq : q.flaw with
      | none => simp [Lexeme.isSound, hq] at hl
      | some flaw =>
          rw [atValue, hq]
          exact ⟨_, rfl, flaw?_enclose_ne_none ((flaw?_string q).trans hq) stack⟩
  | broken | stray => exact ⟨_, rfl, flaw?_enclose_ne_none rfl stack⟩
  | _ => cases hl

theorem exists_of_atKey {l : Lexeme} (hl : l.isSound = false)
    (done : List (Quotation × Document)) (stack : List Frame) :
    ∃ d, atKey done stack l = nothing d ∧ d.flaw? ≠ none := by
  cases l with
  | string q =>
      cases hq : q.flaw with
      | none => simp [Lexeme.isSound, hq] at hl
      | some flaw =>
          rw [atKey, hq]
          exact ⟨_, rfl, flaw?_enclose_ne_none rfl (.member done q :: stack)⟩
  | broken | stray => exact ⟨_, rfl, flaw?_enclose_ne_none rfl stack⟩
  | _ => cases hl

/-- A lexeme at which the reading of a text stops is in no complete document. -/
theorem exists_of_step (h : due.IsOpen) {l : Lexeme} (hl : l.isSound = false) :
    ∃ d, due.step l = nothing d ∧ d.flaw? ≠ none := by
  have hne {other : Lexeme} (hother : other.isSound = true) : l ≠ other := by
    rintro rfl
    rw [hother] at hl
    cases hl
  cases due with
  | nothing => exact h.elim
  | value stack => exact exists_of_atValue hl stack
  | firstElement stack =>
      rw [step_firstElement (hne rfl)]
      exact exists_of_atValue hl _
  | nextElement done stack =>
      rw [step_nextElement (hne rfl)]
      exact exists_of_atValue hl _
  | firstKey stack =>
      rw [step_firstKey (hne rfl)]
      exact exists_of_atKey hl [] stack
  | nextKey done stack =>
      rw [step_nextKey (hne rfl)]
      exact exists_of_atKey hl done stack
  | afterElement done stack | afterMember done stack | colon done key stack =>
      cases l with
      | string | broken | stray => exact ⟨_, rfl, flaw?_enclose_ne_none rfl _⟩
      | _ => cases hl

/-- A document that is complete does not depend on what comes after it. -/
theorem read_append {ls : List Lexeme} (h : due.read ls = (d, [])) (hd : d.flaw? = none)
    (rest : List Lexeme) : due.read (ls ++ rest) = (d, rest) := by
  induction ls generalizing due with
  | nil =>
      rw [read_nil] at h
      obtain ⟨rfl, -⟩ := Prod.mk.inj h
      obtain hopen | ⟨d, rfl⟩ := due.isOpen_or
      · exact absurd hd (flaw?_finish hopen)
      · exact read_nothing d rest
  | cons l ls ih =>
      obtain hopen | ⟨d, rfl⟩ := due.isOpen_or
      · rw [read_cons hopen] at h
        rw [List.cons_append, read_cons hopen, ih h]
      · cases h

/-- A document has been read from the lexemes before the rest. -/
theorem exists_of_read_eq {ls rest : List Lexeme} (h : due.read ls = (d, rest)) :
    ∃ front, ls = front ++ rest ∧ due.read front = (d, []) := by
  induction ls generalizing due with
  | nil =>
      obtain rfl : rest = [] := by
        rw [read_nil] at h
        exact (Prod.mk.inj h).2.symm
      exact ⟨[], rfl, h⟩
  | cons l ls ih =>
      obtain hopen | ⟨d, rfl⟩ := due.isOpen_or
      · rw [read_cons hopen] at h
        obtain ⟨front, rfl, hfront⟩ := ih h
        exact ⟨l :: front, rfl, by rw [read_cons hopen, hfront]⟩
      · obtain ⟨rfl, rfl⟩ := Prod.mk.inj h
        exact ⟨[], rfl, rfl⟩

/-- There is nothing in a complete document at which the reading of a text stops. -/
theorem isSound_of_read {ls : List Lexeme} (h : due.read ls = (d, [])) (hd : d.flaw? = none) :
    ∀ l ∈ ls, l.isSound = true := by
  induction ls generalizing due with
  | nil => nofun
  | cons l ls ih =>
      obtain hopen | ⟨d, rfl⟩ := due.isOpen_or
      · rw [read_cons hopen] at h
        refine List.forall_mem_cons.mpr ⟨?_, ih h⟩
        cases hl : l.isSound with
        | true => rfl
        | false =>
            obtain ⟨flawed, hstep, hflaw⟩ := exists_of_step hopen hl
            rw [hstep, read_nothing] at h
            obtain ⟨rfl, -⟩ := Prod.mk.inj h
            exact absurd hd hflaw
      · cases h

end Due

/-! ## Values -/

theorem isSound_of_ofLexemes {ls : List Lexeme} (h : ofLexemes ls = (d, []))
    (hd : d.flaw? = none) : ∀ l ∈ ls, l.isSound = true :=
  Due.isSound_of_read h hd

/-- **A complete document is read the same wherever a value is due.** -/
theorem read_of_ofLexemes {ls : List Lexeme} (h : ofLexemes ls = (d, [])) (hd : d.flaw? = none)
    (stack : List Frame) (rest : List Lexeme) :
    (Due.value stack).read (ls ++ rest) = (settle d stack).read rest := by
  have hwithin := Due.read_within stack (.value []) (ls ++ rest)
  rwa [Due.read_append h hd, Due.within_nothing hd] at hwithin

/-- Whatever is complete has something complete where a value was due. -/
theorem exists_of_read {ls rest : List Lexeme} (h : (Due.value stack).read ls = (document, rest))
    (hdocument : document.flaw? = none) :
    ∃ front d back, ls = front ++ back ∧ ofLexemes front = (d, []) ∧ d.flaw? = none ∧
      (settle d stack).read back = (document, rest) := by
  have hwithin := Due.read_within stack (.value []) ls
  rw [show (Due.value []).within stack = .value stack from rfl, h] at hwithin
  generalize hread : (Due.value []).read ls = result at hwithin
  obtain ⟨d, back⟩ := result
  cases hd : d.flaw? with
  | none =>
      rw [Due.within_nothing hd] at hwithin
      obtain ⟨front, rfl, hfront⟩ := Due.exists_of_read_eq hread
      exact ⟨front, d, back, rfl, hfront, hd, hwithin.symm⟩
  | some flaw =>
      rw [show (Due.nothing d).within stack = stop d flaw stack by rw [Due.within, hd]] at hwithin
      rw [stop, Due.read_nothing] at hwithin
      obtain ⟨rfl, -⟩ := Prod.mk.inj hwithin
      rw [flaw?_enclose hd] at hdocument
      cases hdocument

end FleetConsole.Json.Document
