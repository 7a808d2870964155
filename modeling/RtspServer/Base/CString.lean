import RtspServer.Base.Bytes
import Mathlib.Data.List.TakeWhile

/-!
# C strings

Cursors into a character array, and what the C library does with them. A cursor
is the rest of the array from the pointer on; reading past its end is a fault.
-/

namespace RtspServer

inductive Fault where
  /-- An access outside an array. -/
  | outOfBounds
  /-- A loop that never ends. -/
  | hang
  deriving DecidableEq, Repr

abbrev Run := Except Fault

abbrev NUL : UInt8 := 0
abbrev TAB : UInt8 := 9
abbrev LF : UInt8 := 10
abbrev CR : UInt8 := 13
abbrev SP : UInt8 := 32
abbrev DOT : UInt8 := 46
abbrev SLASH : UInt8 := 47
abbrev COLON : UInt8 := 58
abbrev SEMICOLON : UInt8 := 59

abbrev CRLF : Bytes := [CR, LF]

def isspace (c : UInt8) : Bool := c = SP ∨ (9 ≤ c ∧ c ≤ 13)

def isdigit (c : UInt8) : Bool := 48 ≤ c ∧ c ≤ 57

def tolower (c : UInt8) : UInt8 := if 65 ≤ c ∧ c ≤ 90 then c + 32 else c

/-- `*cur` -/
def deref : Bytes → Run UInt8
  | [] => .error .outOfBounds
  | c :: _ => .ok c

/-- `while (p(*cur)) ++cur;` -/
def skip (p : UInt8 → Bool) : Bytes → Run Bytes
  | [] => .error .outOfBounds
  | c :: rest => if p c then skip p rest else .ok (c :: rest)

/-- `cur[0] == '\r' && cur[1] == '\n'` -/
def atLineEnd : Bytes → Run Bool
  | [] => .error .outOfBounds
  | c :: rest => if c = CR then return (← deref rest) = LF else return false

/-- The characters before the first NUL. -/
def cString (s : Bytes) : Bytes := s.takeWhile (· ≠ NUL)

/-- Whether `strstr(s, part)` finds something. -/
def strstr (s part : Bytes) : Prop := part <:+: cString s

instance (s part : Bytes) : Decidable (strstr s part) := inferInstanceAs (Decidable (_ <:+: _))

/-- `strncasecmp(word, cur, strlen(word)) == 0`, for a word in lower case. -/
def strncasecmp (word cur : Bytes) : Prop := (cur.take word.length).map tolower = word

instance (word cur : Bytes) : Decidable (strncasecmp word cur) := inferInstanceAs (Decidable (_ = _))

def digitsValue (digits : Bytes) : Nat := digits.foldl (fun v d => 10 * v + (d.toNat - 48)) 0

/-- `atoi` on a text of digits: `strtol` saturates, and its result is cut to an `int`. -/
def atoi (digits : Bytes) : Int := Int.bmod (min (digitsValue digits) (2 ^ 63 - 1) : Nat) (2 ^ 32)

/-- What `snprintf` leaves in an array of `size` characters. -/
def snprintf (size : Nat) (text : Bytes) : Bytes := text.take (size - 1)

/-- `%u` and `%i` -/
def decimal (n : Int) : Bytes :=
  let digits := (Nat.toDigits 10 n.natAbs).map fun c => c.toNat.toUInt8
  if n < 0 then 45 :: digits else digits

/-! ### Loops over a known text -/

def IsPlain (c : UInt8) : Prop := c ≠ NUL ∧ c ≠ CR ∧ c ≠ LF

instance (c : UInt8) : Decidable (IsPlain c) := inferInstanceAs (Decidable (_ ∧ _))

/-- `IsPlain` of a whole text, as a quick test. -/
def isPlainText (text : Bytes) : Bool := text.all fun c => c != NUL && c != CR && c != LF

theorem plain_of_test {text : Bytes} (h : isPlainText text = true) : ∀ c ∈ text, IsPlain c := by
  simpa [isPlainText, IsPlain, and_assoc] using h

theorem deref_cons (c : UInt8) (rest : Bytes) : deref (c :: rest) = .ok c := rfl

theorem skip_append {p : UInt8 → Bool} {front : Bytes} {c : UInt8} (all : ∀ d ∈ front, p d = true)
    (stop : p c = false) (rest : Bytes) : skip p (front ++ c :: rest) = .ok (c :: rest) := by
  induction front with
  | nil => rw [List.nil_append, skip, stop]; rfl
  | cons d front ih =>
    rw [List.cons_append, skip, if_pos (all d List.mem_cons_self)]
    exact ih fun x member => all x (List.mem_cons_of_mem d member)

theorem skip_ok {p : UInt8 → Bool} {cur rest : Bytes} (h : skip p cur = .ok rest) :
    ∃ front c tail, cur = front ++ rest ∧ rest = c :: tail ∧ (∀ d ∈ front, p d = true) ∧ p c = false := by
  induction cur with
  | nil => cases h
  | cons c cur ih =>
    rw [skip] at h
    split at h
    · rename_i yes
      obtain ⟨front, d, tail, whole, head, all, stop⟩ := ih h
      refine ⟨c :: front, d, tail, by rw [whole]; rfl, head, ?_, stop⟩
      intro x member
      rcases List.mem_cons.mp member with rfl | later
      · exact yes
      · exact all x later
    · rename_i no
      cases h
      exact ⟨[], c, cur, rfl, rfl, by simp, by simpa using no⟩

theorem mem_dropWhile {p : UInt8 → Bool} {c : UInt8} {cur : Bytes} (member : c ∈ cur) (stop : p c = false) :
    c ∈ cur.dropWhile p := by
  rw [← List.takeWhile_append_dropWhile (p := p) (l := cur)] at member
  rcases List.mem_append.mp member with front | back
  · rw [List.mem_takeWhile_imp front] at stop
    cases stop
  · exact back

theorem skip_eq {p : UInt8 → Bool} {c : UInt8} {cur : Bytes} (member : c ∈ cur) (stop : p c = false) :
    skip p cur = .ok (cur.dropWhile p) := by
  induction cur with
  | nil => cases member
  | cons d cur ih =>
    rw [skip, List.dropWhile_cons]
    split
    · rename_i going
      rcases List.mem_cons.mp member with rfl | later
      · rw [stop] at going
        cases going
      · exact ih later
    · rfl

theorem cString_text {text : Bytes} (clean : NUL ∉ text) (rest : Bytes) : cString (text ++ NUL :: rest) = text := by
  have all : ∀ c ∈ text, (decide (c ≠ NUL)) = true := by
    intro c member
    exact decide_eq_true fun zero => clean (zero ▸ member)
  rw [cString, List.takeWhile_append_of_pos all, List.takeWhile_cons_of_neg (by simp), List.append_nil]

/-! ### Runs -/

theorem ok_bind {α β : Type} (a : α) (f : α → Run β) : (Except.ok a : Run α) >>= f = f a := rfl

theorem bind_ok {α β : Type} {r : Run α} {f : α → Run β} {b : β} (h : r >>= f = .ok b) :
    ∃ a, r = .ok a ∧ f a = .ok b := by
  cases r with
  | error e => cases h
  | ok a => exact ⟨a, rfl, h⟩

theorem pure_ok {α : Type} {a b : α} (h : (pure a : Run α) = .ok b) : a = b := Except.ok.inj h

theorem ok_of_toOption {α : Type} {r : Run α} {a : α} (h : r.toOption = some a) : r = .ok a := by
  cases r with
  | error e => cases h
  | ok b => exact congrArg _ (Option.some.inj h)

/-- Both runs end in related values, or both in the same fault. -/
def Run.Rel {α β : Type} (Q : α → β → Prop) : Run α → Run β → Prop
  | .ok a, .ok b => Q a b
  | .error e, .error e' => e = e'
  | _, _ => False

theorem Run.Rel.bind {α β γ δ : Type} {Q : α → β → Prop} {P : γ → δ → Prop} {r : Run α} {r' : Run β}
    {f : α → Run γ} {g : β → Run δ} (first : Run.Rel Q r r') (then' : ∀ a b, Q a b → Run.Rel P (f a) (g b)) :
    Run.Rel P (r >>= f) (r' >>= g) := by
  cases r with
  | error e =>
    cases r' with
    | error e' => exact first
    | ok b => exact first.elim
  | ok a =>
    cases r' with
    | error e' => exact first.elim
    | ok b => exact then' a b first

theorem Run.Rel.bind_same {α γ δ : Type} {P : γ → δ → Prop} (r : Run α) {f : α → Run γ} {g : α → Run δ}
    (then' : ∀ a, Run.Rel P (f a) (g a)) : Run.Rel P (r >>= f) (r >>= g) := by
  cases r with
  | error e => rfl
  | ok a => exact then' a

theorem Run.Rel.bind_right {α β δ : Type} {Q : α → β → Prop} {P : α → δ → Prop} {r : Run α} {r' : Run β}
    {g : β → Run δ} (first : Run.Rel Q r r') (then' : ∀ a b, Q a b → Run.Rel P (.ok a) (g b)) :
    Run.Rel P r (r' >>= g) := by
  cases r with
  | error e =>
    cases r' with
    | error e' => exact first
    | ok b => exact first.elim
  | ok a =>
    cases r' with
    | error e' => exact first.elim
    | ok b => exact then' a b first

theorem Run.Rel.trans {α β γ : Type} {P : α → β → Prop} {Q : β → γ → Prop} {R : α → γ → Prop} {r : Run α}
    {r' : Run β} {r'' : Run γ} (first : Run.Rel P r r') (second : Run.Rel Q r' r'')
    (both : ∀ a b c, P a b → Q b c → R a c) : Run.Rel R r r'' := by
  match r, r', r'', first, second with
  | .ok a, .ok b, .ok c, first, second => exact both a b c first second
  | .error e, .error e', .error e'', first, second => exact Eq.trans first second

theorem Run.Rel.same {α : Type} {Q : α → α → Prop} {r r' : Run α} (h : Run.Rel Q r r') (eq : ∀ a b, Q a b → a = b) :
    r = r' := by
  match r, r', h with
  | .ok a, .ok b, h => rw [eq a b h]
  | .error e, .error e', h => exact congrArg Except.error h

end RtspServer
