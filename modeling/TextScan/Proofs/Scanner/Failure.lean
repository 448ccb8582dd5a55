import TextScan.Engine.Device
import TextScan.Proofs.Scanner.Effect

/-!
# What an operation that fails leaves behind

An operation can fail in two ways. Some test what they are asked before they touch anything
(`Op.TestsFirst`), and a fault leaves the scanner as it was. Reading and match attempts empty the
register before anything can go wrong (`Op.ClearsFirst`), and a fault leaves the text and the cursor
as they were. No other operation fails (`Scanner.step_fault_unchanged`). The engine may fail or
report what it likes, and the cursor may lie anywhere.
-/

namespace TextScan

universe u

/-- The operations that can fail, and test what they are asked before they touch anything. -/
inductive Op.TestsFirst : Op → Prop
  /-- Looking at the next characters. -/
  | peek (n : Int) : TestsFirst (.peek n)
  /-- Moving the cursor. -/
  | setPosition (n : Int) : TestsFirst (.setPosition n)
  /-- Asking for a group. -/
  | groupAt (key : GroupKey) : TestsFirst (.groupAt key)
  /-- Asking for several groups. -/
  | groupsAt (keys : List GroupKey) : TestsFirst (.groupsAt keys)
  /-- Asking whether the cursor is at the start of a line. -/
  | atLineStart : TestsFirst .atLineStart
  /-- Asking whether the cursor is at the end of a line. -/
  | atLineEnd : TestsFirst .atLineEnd

/-- The operations that can fail, and empty the register before they do anything else. -/
inductive Op.ClearsFirst : Op → Prop
  /-- Taking the next characters. -/
  | read (n : Int) : ClearsFirst (.read n)
  /-- A match attempt. -/
  | attempt (reach : Reach) (use : Use) (p : Pattern) : ClearsFirst (.attempt reach use p)

namespace Scanner

variable {σ : Type u} (E : Engine σ)

/-- A question that fails is one of those that test what they are asked. -/
theorem testsFirst_of_asks {op : Op} (hasks : op.asks = true) {s : Scanner} {e : σ} {f : Fault}
    (h : (s.step E op e).1.result = .error f) : op.TestsFirst := by
  cases op with
  | peek n => exact .peek n
  | groupAt key => exact .groupAt key
  | groupsAt keys => exact .groupsAt keys
  | atLineStart => exact .atLineStart
  | atLineEnd => exact .atLineEnd
  | attempt | read | setPosition | setText | reset | terminate | append =>
    simp [Op.asks] at hasks
  -- All other questions are answered.
  | _ => cases h

/-- With any engine and wherever the cursor lies, an operation that ends in a fault leaves the text
and the cursor as they were. It also leaves the register as it was if it is one that tests what it is
asked, and otherwise it is a match attempt or a read, and the register is empty. -/
theorem step_fault_unchanged (s : Scanner) (e : σ) (op : Op) {f : Fault}
    (h : (s.step E op e).1.result = .error f) :
    let after := (s.step E op e).2.1
    after.text = s.text ∧ after.pos = s.pos ∧
      ((op.TestsFirst ∧ after.last = s.last) ∨ (op.ClearsFirst ∧ after.last = none)) := by
  have htests : op.asks = true → op.TestsFirst := fun hasks => testsFirst_of_asks E hasks h
  have heffect := step_effect E op s e
  dsimp only
  generalize (s.step E op e).2.1 = after at heffect ⊢
  generalize (s.step E op e).1 = o at heffect h
  cases heffect with
  | asked hasks => exact ⟨rfl, rfl, Or.inl ⟨htests hasks, rfl⟩⟩
  | misplaced => exact ⟨rfl, rfl, Or.inl ⟨.setPosition _, rfl⟩⟩
  | rejected | raised => exact ⟨rfl, rfl, Or.inr ⟨.attempt _ _ _, rfl⟩⟩
  | readNegative => exact ⟨rfl, rfl, Or.inr ⟨.read _, rfl⟩⟩
  -- In all other effects the operation has succeeded.
  | accepted | missed | read | readShort | placed | setText | reset | terminate | appended =>
    cases h

/-- A cursor that an engine has carried out of the text: asking about the line end fails and keeps
the register, and a search on which the engine fails empties it. -/
theorem step_fault_unchanged_stray :
    let m : Match := { start := 0, stop := 9, value := ['a'] }
    let s : Scanner := { text := ['a', 'b'], pos := 9, last := some m }
    let e : Device × Cache := (.script [.error "lost"] none, {})
    let asked := s.step Device.engine .atLineEnd e
    let searched := s.step Device.engine (.attempt .ahead .scan (.source [])) e
    Reachable Device.engine s ∧
      asked.1.result = .error .noCharacter ∧ asked.2.1.text = s.text ∧ asked.2.1.pos = 9 ∧
      asked.2.1.last = some m ∧
      searched.1.result = .error (.engine "lost") ∧ searched.2.1.text = s.text ∧
      searched.2.1.pos = 9 ∧ searched.2.1.last = none := by
  intro m s e asked searched
  have hreach : Reachable Device.engine s :=
    ⟨['a', 'b'], (.script [.ok (some m)] none, {}), [.attempt .anchored .scan (.source [])], rfl⟩
  have hasked : asked.1.result = .error .noCharacter := rfl
  have hsearched : searched.1.result = .error (.engine "lost") := rfl
  obtain ⟨htext, hpos, hregister⟩ := step_fault_unchanged Device.engine s e _ hasked
  obtain ⟨htext', hpos', hregister'⟩ := step_fault_unchanged Device.engine s e _ hsearched
  have hkept : asked.2.1.last = some m := by
    rcases hregister with ⟨-, hlast⟩ | ⟨hclears, -⟩
    · exact hlast
    · cases hclears
  have hemptied : searched.2.1.last = none := by
    rcases hregister' with ⟨htests, -⟩ | ⟨-, hlast⟩
    · cases htests
    · exact hlast
  exact ⟨hreach, hasked, htext, hpos, hkept, hsearched, htext', hpos', hemptied⟩

end Scanner

end TextScan
