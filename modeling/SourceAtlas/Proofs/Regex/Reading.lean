import Mathlib.Data.List.Infix
import SourceAtlas.Regex.Parse

/-!
# Readers of pattern texts, and what they blame the text for

A pattern text is read by some forty readers that call each other. Four of the faults they may stop
with are no mistakes of notation: a count beyond what can be counted or with more digits than are
read, a contradiction of flags, and nesting that is too deep. This module has a logic of triples for
readers, in which a reader that stops must be excused by the text.

* `Excused` — the text has what a fault is about: a count in braces that is too large or too long,
  letters that set the flags of two alphabets, or many opening parentheses;
* `Fits` — a reader has read up to some place of the text and nothing else, the flags that are set
  were set by the text, and so many levels have been paid for by parentheses that were read;
* `Triple`, `Gives` — what a reader does from the states that fit.

The readers of single tokens say in their triples what they have just read (`triple_take`,
`triple_accept`, `triple_takeWhile`), since a count and a group of flags are only seen as such from
their first sign to their last. All other readers only have to leave a state that fits (`Gives`).
-/

namespace SourceAtlas.Regex.Reader

variable {α β : Type} {pattern front : List Char} {level : Nat}

/-! ### What the text is blamed for -/

/-- A count in braces, with its bounds. -/
inductive BraceCount : (written low high : List Char) → Prop
  | one (low : List Char) : BraceCount ('{' :: (low ++ ['}'])) low low
  | two (low high : List Char) : BraceCount ('{' :: (low ++ ',' :: (high ++ ['}']))) low high

/-- The text has a count in braces with a bound of some kind. -/
def WritesCount (pattern : List Char) (kind : List Char → Prop) : Prop :=
  ∃ written low high, BraceCount written low high ∧ written <:+: pattern ∧
    (∀ c ∈ low, c.isDigit = true) ∧ (∀ c ∈ high, c.isDigit = true) ∧ (kind low ∨ kind high)

/-- **The text has a count that is too large:** digits in braces that spell a number beyond the
limit. -/
def WritesHugeCount (pattern : List Char) : Prop :=
  WritesCount pattern fun digits => countLimit ≤ numberOf 10 digits

/-- **The text has a count that is too long:** more digits in braces than are read, whatever number
they spell. -/
def WritesLongCount (pattern : List Char) (length : Nat) : Prop :=
  WritesCount pattern fun digits => digits.length = length ∧ digitLimit < length

/-- **The text sets a flag for the whole pattern:** its letter is in a group of such letters. -/
def SetsFlag (pattern : List Char) (letter : Char) : Prop :=
  ∃ letters, letter ∈ letters ∧ (∀ c ∈ letters, (Flag.ofChar? c).isSome = true) ∧
    '(' :: '?' :: (letters ++ [')']) <:+: pattern

/-- **The text may nest deep:** it opens more than a hundred groups. There are always levels for so
many, however many levels the callers of a reader have taken. -/
def OpensManyGroups (pattern : List Char) : Prop :=
  100 < pattern.count '('

/-- **Faults that the text is to blame for.** A mistake of notation needs no excuse. -/
def Excused (pattern : List Char) : Fault → Prop
  | .countTooLarge => WritesHugeCount pattern
  | .countTooLong length => WritesLongCount pattern length
  | .flagsContradict => SetsFlag pattern 'a' ∧ SetsFlag pattern 'u'
  | .tooDeep => OpensManyGroups pattern
  | _ => True

/-! ### States that fit a text -/

/-- What is still to be read, with the token that was looked at in advance. -/
def Reading.ahead (r : Reading) : List Char :=
  (r.next.map Token.text).getD [] ++ r.rest

/-- **A state fits a text** at a level where `front` was just read: what was read and what is ahead
are an end of the text, all flags but the one that a caller may give were set by the text, and there
is one opening parenthesis behind for every two levels. -/
structure Fits (pattern : List Char) (level : Nat) (front : List Char) (r : Reading) : Prop where
  /-- An end of the text is left. -/
  text : front ++ r.ahead <:+ pattern
  /-- Levels have been paid for. -/
  paid : level + 2 * r.ahead.count '(' ≤ 2 * pattern.count '('
  /-- The text has set the flags. -/
  flags : ∀ f ∈ r.flags, f = .ignoreCase ∨
    ∃ letter, Flag.ofChar? letter = some f ∧ SetsFlag pattern letter

/-- What was just read may be forgotten. -/
theorem Fits.forget {r : Reading} (h : Fits pattern level front r) : Fits pattern level [] r :=
  ⟨(List.suffix_append front r.ahead).trans h.text, h.paid, h.flags⟩

/-- What is paid for is paid for at every lower level. -/
theorem Fits.mono {r : Reading} {lower : Nat} (h : Fits pattern level front r)
    (hlower : lower ≤ level) : Fits pattern lower front r :=
  ⟨h.text, (Nat.add_le_add_right hlower _).trans h.paid, h.flags⟩

/-- A state fits if it differs in what is known about groups only. -/
theorem Fits.of_eq {r r' : Reading} (h : Fits pattern level front r) (hnext : r'.next = r.next)
    (hrest : r'.rest = r.rest) (hflags : r'.flags = r.flags) : Fits pattern level front r' where
  text := by
    rw [Reading.ahead, hnext, hrest]
    exact h.text
  paid := by
    rw [Reading.ahead, hnext, hrest]
    exact h.paid
  flags := by
    rw [hflags]
    exact h.flags

/-- What was just read is in the text. -/
theorem Fits.isInfix {r : Reading} (h : Fits pattern level front r) : front <:+: pattern :=
  (List.prefix_append front r.ahead).isInfix.trans h.text.isInfix

/-! ### Triples -/

/-- **What a reader does:** from a state with the first property it comes to a result and a state
with the second one, or it stops with a fault that the text is to blame for. -/
def Triple (pattern : List Char) (P : Reading → Prop) (x : Reads α) (Q : α → Reading → Prop) :
    Prop :=
  ∀ r, P r → (∀ a r', x.run r = .ok (a, r') → Q a r') ∧
    ∀ fault, x.run r = .error fault → Excused pattern fault

section Rules

variable {P : Reading → Prop} {Q : α → Reading → Prop} {S : β → Reading → Prop} {x : Reads α}

/-- The rule of consequence. -/
theorem Triple.imp {P' : Reading → Prop} {Q' : α → Reading → Prop} (h : Triple pattern P x Q)
    (hP : ∀ r, P' r → P r) (hQ : ∀ a r, Q a r → Q' a r) : Triple pattern P' x Q' := by
  intro r hr
  obtain ⟨hok, herror⟩ := h r (hP r hr)
  exact ⟨fun a r' ha => hQ a r' (hok a r' ha), herror⟩

/-- The fault of a reader whose result is used somehow. -/
theorem Triple.excused_of_map {f : α × Reading → β} {r : Reading} {fault : Fault}
    (h : Triple pattern P x Q) (hr : P r) (hfault : f <$> x.run r = .error fault) :
    Excused pattern fault := by
  cases hrun : x.run r with
  | error fault' =>
    rw [hrun] at hfault
    cases hfault
    exact (h r hr).2 fault hrun
  | ok result =>
    rw [hrun] at hfault
    cases hfault

/-- What is known before a reader starts, whatever the state is. -/
theorem triple_extract {p : Prop} (h : p → Triple pattern P x Q) :
    Triple pattern (fun r => P r ∧ p) x Q :=
  fun r hr => h hr.2 r hr.1

/-- A reader that only returns. -/
theorem triple_pure {a : α} (h : ∀ r, P r → Q a r) : Triple pattern P (pure a) Q := by
  intro r hr
  refine ⟨fun a' r' ha => ?_, fun fault hfault => ?_⟩
  · cases ha
    exact h r hr
  · cases hfault

/-- **The rule of sequencing:** a fault of either part is excused. -/
theorem triple_bind {f : α → Reads β} (hx : Triple pattern P x Q)
    (hf : ∀ a, Triple pattern (Q a) (f a) S) : Triple pattern P (x >>= f) S := by
  intro r hr
  obtain ⟨hok, herror⟩ := hx r hr
  cases hrun : x.run r with
  | error fault =>
    have hbind : (x >>= f).run r = .error fault := by
      rw [StateT.run_bind, hrun]
      rfl
    rw [hbind]
    refine ⟨fun b r' hb => ?_, fun fault' hfault => ?_⟩
    · cases hb
    · cases hfault
      exact herror fault hrun
  | ok result =>
    obtain ⟨a, r'⟩ := result
    have hbind : (x >>= f).run r = (f a).run r' := by
      rw [StateT.run_bind, hrun]
      rfl
    rw [hbind]
    exact hf a r' (hok a r' hrun)

/-- One of two readers, and the same behind either. -/
theorem triple_ite_bind {c : Bool} {y : Reads α} {f : α → Reads β}
    (hx : c = true → Triple pattern P x Q) (hy : c = false → Triple pattern P y Q)
    (hf : ∀ a, Triple pattern (Q a) (f a) S) :
    Triple pattern P (if c = true then x >>= f else y >>= f) S := by
  cases c with
  | true => exact triple_bind (hx rfl) hf
  | false => exact triple_bind (hy rfl) hf

/-- After a look at the state, the rest runs from the state that was seen. -/
theorem triple_get_bind {f : Reading → Reads β}
    (h : ∀ s, P s → Triple pattern (fun r => r = s) (f s) S) : Triple pattern P (get >>= f) S := by
  intro r hr
  exact h r hr r rfl

/-- A look at the state changes nothing. -/
theorem triple_look {f : Reading → Reads β} (h : ∀ s, Triple pattern P (f s) S) :
    Triple pattern P (get >>= f) S :=
  fun r hr => h r r hr

theorem triple_set {s : Reading} {Q : PUnit → Reading → Prop} (h : Q ⟨⟩ s) :
    Triple pattern P (set s) Q := by
  intro r _
  refine ⟨fun a r' ha => ?_, fun fault hfault => ?_⟩
  · cases ha
    exact h
  · cases hfault

theorem triple_modify {g : Reading → Reading} {Q : PUnit → Reading → Prop}
    (h : ∀ r, P r → Q ⟨⟩ (g r)) : Triple pattern P (modify g) Q := by
  intro r hr
  refine ⟨fun a r' ha => ?_, fun fault hfault => ?_⟩
  · cases ha
    exact h r hr
  · cases hfault

/-- A step outside the state, with what it returned. -/
theorem triple_lift {e : Except Fault α} (h : ∀ fault, e = .error fault → Excused pattern fault) :
    Triple pattern P (liftM e) fun a r => e = .ok a ∧ P r := by
  intro r hr
  cases e with
  | error fault =>
    refine ⟨fun a r' ha => ?_, fun fault' hfault => ?_⟩
    · cases ha
    · cases hfault
      exact h fault rfl
  | ok b =>
    refine ⟨fun a r' ha => ?_, fun fault' hfault => ?_⟩
    · cases ha
      exact ⟨rfl, hr⟩
    · cases hfault

/-- Stopping needs an excuse. -/
theorem triple_throw {fault : Fault} (h : ∀ r, P r → Excused pattern fault) :
    Triple pattern P (throw fault : Reads α) Q := by
  intro r hr
  refine ⟨fun a r' ha => ?_, fun fault' hfault => ?_⟩
  · cases ha
  · cases hfault
    exact h r hr

/-- A mistake of notation needs none. -/
theorem triple_refuse {reason : Reason} {back : Nat} :
    Triple pattern P (refuse reason back : Reads α) Q :=
  triple_look fun _ => triple_throw fun _ _ => trivial

end Rules

/-! ### Single tokens -/

/-- A token and what is behind it make up the text it was taken from. -/
theorem text_of_tokenOf {cs rest : List Char} {pos : Nat} {next : Option Token}
    (h : tokenOf cs pos = .ok (next, rest)) : (next.map Token.text).getD [] ++ rest = cs := by
  unfold tokenOf at h
  split at h
  · cases h
    rfl
  · cases h
  · cases h
    rfl
  · cases h
    rfl

/-- A text that ends in a backslash is a mistake of notation. -/
theorem excused_of_tokenOf {cs : List Char} {pos : Nat} {fault : Fault}
    (h : tokenOf cs pos = .error fault) : Excused pattern fault := by
  unfold tokenOf at h
  split at h
  · cases h
  · cases h
    trivial
  · cases h
  · cases h

/-- The token that was next has been read afterwards, and its parentheses pay for more levels. -/
theorem triple_advance_pay {s : Reading} (h : Fits pattern level front s) :
    Triple pattern (fun r => r = s) advance fun _ r =>
      Fits pattern (level + 2 * ((s.next.map Token.text).getD []).count '(')
        (front ++ (s.next.map Token.text).getD []) r := by
  refine triple_get_bind fun r hr => ?_
  subst hr
  refine triple_bind (triple_lift fun fault => excused_of_tokenOf) fun token => ?_
  obtain ⟨next, rest⟩ := token
  intro _ htoken
  refine triple_set (P := fun _ => True) ⟨?_, ?_, h.flags⟩ _ trivial
  · rw [Reading.ahead, text_of_tokenOf htoken.1, List.append_assoc]
    exact h.text
  · have hpaid := h.paid
    rw [Reading.ahead, List.count_append] at hpaid
    rw [Reading.ahead, text_of_tokenOf htoken.1]
    omega

/-- The token that was next has been read afterwards. -/
theorem triple_advance {s : Reading} (h : Fits pattern level front s) :
    Triple pattern (fun r => r = s) advance fun _ r =>
      Fits pattern level (front ++ (s.next.map Token.text).getD []) r :=
  (triple_advance_pay h).imp (fun _ hr => hr) fun _ _ hr => hr.mono (Nat.le_add_right _ _)

/-- The token that is taken has just been read. -/
theorem triple_take : Triple pattern (Fits pattern level front) take fun t r =>
    Fits pattern level (front ++ (t.map Token.text).getD []) r := by
  refine triple_get_bind fun s hs => ?_
  exact triple_bind (triple_advance hs) fun _ => triple_pure fun _ h => h

/-- A sign that is accepted has just been read; otherwise nothing has. -/
theorem triple_accept {c : Char} :
    Triple pattern (Fits pattern level front) (accept c) fun taken r =>
      Fits pattern level (if taken then front ++ [c] else front) r := by
  refine triple_get_bind fun s hs => ?_
  by_cases hnext : s.next = some (.plain c)
  · rw [if_pos hnext]
    have hadvance := triple_advance hs
    rw [hnext] at hadvance
    exact triple_bind hadvance fun _ => triple_pure fun _ h => h
  · rw [if_neg hnext]
    refine triple_pure fun r hr => ?_
    subst hr
    exact hs

/-- The characters that are taken have just been read, and they pass the test. -/
theorem triple_takeWhile {p : Char → Bool} {n : Nat} :
    Triple pattern (Fits pattern level front) (takeWhile p n) fun ds r =>
      Fits pattern level (front ++ ds) r ∧ ∀ c ∈ ds, p c = true := by
  induction n generalizing front with
  | zero =>
    refine triple_pure fun r hr => ?_
    rw [List.append_nil]
    exact ⟨hr, fun c hc => absurd hc List.not_mem_nil⟩
  | succ n ih =>
    have hstop : ∀ {s : Reading}, Fits pattern level front s →
        Triple pattern (fun r => r = s) (pure [] : Reads (List Char)) fun ds r =>
          Fits pattern level (front ++ ds) r ∧ ∀ c ∈ ds, p c = true := by
      intro s hs
      refine triple_pure fun r hr => ?_
      subst hr
      rw [List.append_nil]
      exact ⟨hs, fun c hc => absurd hc List.not_mem_nil⟩
    rw [takeWhile]
    refine triple_get_bind fun s hs => ?_
    split
    · next c hnext =>
      split
      · next hc =>
        -- the character is behind what was just read, and the others follow it
        have hadvance := triple_advance hs
        rw [hnext] at hadvance
        refine triple_bind hadvance fun _ => triple_bind ih fun ds => triple_pure fun r hr => ?_
        obtain ⟨hfits, hds⟩ := hr
        rw [List.append_assoc] at hfits
        exact ⟨hfits, List.forall_mem_cons.mpr ⟨hc, hds⟩⟩
      · exact hstop hs
    · exact hstop hs

/-! ### Readers that leave a state that fits -/

/-- **What most readers do:** from a state that fits they come to one that fits at the same level,
and to a result with a property. -/
def Gives (pattern : List Char) (level : Nat) (x : Reads α) (R : α → Prop) : Prop :=
  Triple pattern (Fits pattern level []) x fun a r => Fits pattern level [] r ∧ R a

/-- Readers of whose result nothing is asked. -/
abbrev Keeps (pattern : List Char) (level : Nat) (x : Reads α) : Prop :=
  Gives pattern level x fun _ => True

section Rules

variable {R : α → Prop} {S : β → Prop} {x : Reads α}

/-- What was read before does not matter to a reader that only has to leave a state that fits. -/
theorem Gives.of_front (h : Gives pattern level x R) :
    Triple pattern (Fits pattern level front) x fun a r => Fits pattern level [] r ∧ R a :=
  h.imp (fun _ hr => hr.forget) fun _ _ ha => ha

theorem gives_pure {a : α} (h : R a) : Gives pattern level (pure a) R :=
  triple_pure fun _ hr => ⟨hr, h⟩

theorem keeps_pure {a : α} : Keeps pattern level (pure a) :=
  gives_pure trivial

/-- Sequencing, with what the first reader gives. -/
theorem gives_bind {f : α → Reads β} (hx : Gives pattern level x R)
    (hf : ∀ a, R a → Gives pattern level (f a) S) : Gives pattern level (x >>= f) S :=
  triple_bind hx fun a => triple_extract (hf a)

/-- Sequencing, where nothing need be known of what the first reader gives. -/
theorem keeps_bind {f : α → Reads β} (hx : Keeps pattern level x)
    (hf : ∀ a, Gives pattern level (f a) S) : Gives pattern level (x >>= f) S :=
  gives_bind hx fun a _ => hf a

/-- A look at the state, in a reader that only has to leave one that fits. -/
theorem gives_look {f : Reading → Reads β} (hf : ∀ s, Gives pattern level (f s) S) :
    Gives pattern level (get >>= f) S :=
  triple_look hf

theorem gives_refuse {reason : Reason} {back : Nat} : Gives pattern level (refuse reason back) R :=
  triple_refuse

end Rules

theorem keeps_advance : Keeps pattern level advance := by
  intro r hr
  obtain ⟨hok, herror⟩ := triple_advance hr r rfl
  exact ⟨fun a r' ha => ⟨(hok a r' ha).forget, trivial⟩, herror⟩

theorem keeps_take : Keeps pattern level take :=
  triple_take.imp (fun _ hr => hr) fun _ _ hr => ⟨hr.forget, trivial⟩

theorem keeps_accept {c : Char} : Keeps pattern level (accept c) :=
  triple_accept.imp (fun _ hr => hr) fun _ _ hr => ⟨hr.forget, trivial⟩

theorem keeps_takeWhile {p : Char → Bool} {n : Nat} : Keeps pattern level (takeWhile p n) :=
  triple_takeWhile.imp (fun _ hr => hr) fun _ _ hr => ⟨hr.1.forget, trivial⟩

/-! ### Names and groups -/

/-- A name, read to its terminator. -/
theorem keeps_nameFrom {terminator : Char} {what : String} {read : List Char} {n : Nat} :
    Keeps pattern level (nameFrom terminator what read n) := by
  induction n generalizing read with
  | zero => exact gives_refuse
  | succ n ih =>
    rw [nameFrom]
    refine keeps_bind keeps_take fun t => ?_
    split
    · split
      · exact gives_refuse
      · exact gives_refuse
    · split
      · split
        · exact gives_refuse
        · exact keeps_pure
      · exact ih
    · exact ih

theorem keeps_name {terminator : Char} {what : String} :
    Keeps pattern level (name terminator what) :=
  gives_look fun _ => keeps_nameFrom

theorem keeps_requireIdentifier {isIdentifier : List Char → Bool} {n : List Char} :
    Keeps pattern level (requireIdentifier isIdentifier n) := by
  unfold requireIdentifier
  split
  · exact keeps_pure
  · exact gives_refuse

/-- Opening a group changes what is known about groups, which `Fits` does not speak about. -/
theorem keeps_openGroup {groupName : Option (List Char)} :
    Keeps pattern level (openGroup groupName) := by
  have hset : ∀ {s s' : Reading} {index : Nat}, Fits pattern level [] s' →
      Triple pattern (fun r => r = s) (do set s'; pure index) fun _ r =>
        Fits pattern level [] r ∧ True :=
    fun hs => triple_bind (triple_set hs) fun _ => triple_pure fun _ hr => ⟨hr, trivial⟩
  unfold openGroup
  refine triple_get_bind fun s hs => ?_
  dsimp only
  split
  · exact hset (hs.of_eq rfl rfl rfl)
  · split
    · exact triple_bind (Q := fun _ => Fits pattern level []) triple_refuse fun _ =>
        triple_pure fun _ hr => ⟨hr, trivial⟩
    · exact hset (hs.of_eq rfl rfl rfl)

theorem keeps_closeGroup {index : Nat} {w : Width} : Keeps pattern level (closeGroup index w) :=
  triple_modify fun _ hr => ⟨hr.of_eq rfl rfl rfl, trivial⟩

/-- A reference out of a look-behind is refused or let through. -/
theorem keeps_requireBefore {index : Nat} : Keeps pattern level (requireBefore index) := by
  unfold requireBefore
  refine gives_look fun s => ?_
  split
  · exact keeps_pure
  · split
    · exact gives_refuse
    · split
      · exact gives_refuse
      · exact keeps_pure

end SourceAtlas.Regex.Reader
