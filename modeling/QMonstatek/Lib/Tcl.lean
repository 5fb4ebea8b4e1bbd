import QMonstatek.Lib.Digits

/-!
# Tcl scripts

The part of Tcl that short command strings are written in: commands apart by semicolons or line
feeds, words apart by blanks, a word in braces as it stands, `$name` and `[script]` inside the
others, and the commands `set`, `expr`, `if` and `exit`.  Every other command is one of the program
that the interpreter is part of, `host`.

`parse text`     the commands of a script, none where it is not written in this part of Tcl;
`eval host n text s`   the script run in `s`, with `n` levels of nesting;
`Reply.Meets r Q`      the reply `r` is as `Q` says, whichever of the three it is.

`scan_braced`: in braces, a text whose own braces match is one word, whatever else stands in it.
`run_host`, `run_set`, `run_if` are the rules for the first command of a row.
-/

namespace QMon.Tcl

/-! ## Words -/

inductive Piece where
  | text (s : List Char)
  | var (name : List Char)
  | script (s : List Char)
  deriving DecidableEq, Repr

inductive Word where
  | braced (s : List Char)
  | bare (pieces : List Piece)
  deriving DecidableEq, Repr

inductive Token where
  | word (w : Word)
  | separator
  deriving DecidableEq, Repr

abbrev Command := List Word

/-- where the reader of a script is -/
inductive Mode where
  /-- between two words -/
  | gap
  | bare (pieces : List Piece) (text : List Char)
  /-- behind a dollar sign -/
  | name (pieces : List Piece) (name : List Char)
  | bracket (pieces : List Piece) (brackets braces : Nat) (text : List Char)
  | brace (depth : Nat) (text : List Char)
  /-- behind a closing brace -/
  | closed
  deriving DecidableEq, Repr

def isBlank (c : Char) : Bool := c == ' ' || c == '\t' || c == '\r'

def isSeparator (c : Char) : Bool := c == ';' || c == '\n'

def isNameChar (c : Char) : Bool := c.isAlphanum || c == '_'

/-- the pieces of a word with the text behind them -/
def withText (pieces : List Piece) (text : List Char) : List Piece :=
  if text = [] then pieces else pieces ++ [.text text]

def inBare (pieces : List Piece) (text : List Char) (c : Char) : Option (List Token × Mode) :=
  if c = '\\' then none
  else if isBlank c then some ([.word (.bare (withText pieces text))], .gap)
  else if isSeparator c then some ([.word (.bare (withText pieces text)), .separator], .gap)
  else if c = '$' then some ([], .name (withText pieces text) [])
  else if c = '[' then some ([], .bracket (withText pieces text) 0 0 [])
  else some ([], .bare pieces (text ++ [c]))

def inBrackets (pieces : List Piece) (brackets braces : Nat) (text : List Char) (c : Char) :
    Option (List Token × Mode) :=
  if c = '\\' then none
  else if c = '\x7b' then some ([], .bracket pieces brackets (braces + 1) (text ++ [c]))
  else if c = '\x7d' then some ([], .bracket pieces brackets (braces - 1) (text ++ [c]))
  else if c = '[' ∧ braces = 0 then
    some ([], .bracket pieces (brackets + 1) braces (text ++ [c]))
  else if c = ']' ∧ braces = 0 then
    if brackets = 0 then some ([], .bare (pieces ++ [.script text]) [])
    else some ([], .bracket pieces (brackets - 1) braces (text ++ [c]))
  else some ([], .bracket pieces brackets braces (text ++ [c]))

/-- how deep in braces a character leaves the reader: none where a brace closes too much, and none
at a backslash -/
def depthStep (depth : Nat) (c : Char) : Option Nat :=
  if c = '\\' then none
  else if c = '\x7b' then some (depth + 1)
  else if c = '\x7d' then if depth = 0 then none else some (depth - 1)
  else some depth

def inBraces (depth : Nat) (text : List Char) (c : Char) : Option (List Token × Mode) :=
  if c = '\x7d' ∧ depth = 0 then some ([.word (.braced text)], .closed)
  else (depthStep depth c).map fun depth => ([], .brace depth (text ++ [c]))

/-- one character: the tokens it completes.  A backslash, a quote or a comment is not read. -/
def read : Mode → Char → Option (List Token × Mode)
  | .gap, c =>
    if isBlank c then some ([], .gap)
    else if isSeparator c then some ([.separator], .gap)
    else if c = '\x7b' then some ([], .brace 0 [])
    else if c = '"' ∨ c = '#' then none
    else inBare [] [] c
  | .bare pieces text, c => inBare pieces text c
  | .name pieces name, c =>
    if isNameChar c then some ([], .name pieces (name ++ [c]))
    else if name = [] ∨ c = '(' ∨ c = ':' then none
    else inBare (pieces ++ [.var name]) [] c
  | .bracket pieces brackets braces text, c => inBrackets pieces brackets braces text c
  | .brace depth text, c => inBraces depth text c
  | .closed, c =>
    if isBlank c then some ([], .gap)
    else if isSeparator c then some ([.separator], .gap)
    else none

/-- the end of the script -/
def finish : Mode → Option (List Token)
  | .gap | .closed => some []
  | .bare pieces text => some [.word (.bare (withText pieces text))]
  | .name pieces name => if name = [] then none else some [.word (.bare (pieces ++ [.var name]))]
  | .bracket .. | .brace .. => none

def scan : Mode → List Char → Option (List Token)
  | m, [] => finish m
  | m, c :: rest => (read m c).bind fun r => (scan r.2 rest).map (r.1 ++ ·)

/-- the words up to each separator -/
def commands : List Token → List Command
  | [] => [[]]
  | .separator :: tokens => [] :: commands tokens
  | .word w :: tokens =>
    match commands tokens with
    | [] => [[w]]
    | ws :: rest => (w :: ws) :: rest

def parse (text : List Char) : Option (List Command) :=
  (scan .gap text).map fun tokens => (commands tokens).filter fun c => !c.isEmpty

/-- commands with a separator behind each -/
def tokensOf (cs : List Command) : List Token := cs.flatMap fun c => c.map .word ++ [.separator]

theorem commands_append (c : Command) (tokens : List Token) :
    commands (c.map .word ++ .separator :: tokens) = c :: commands tokens := by
  induction c with
  | nil => rfl
  | cons w c ih =>
    show (match commands (c.map .word ++ .separator :: tokens) with
      | [] => [[w]]
      | ws :: rest => (w :: ws) :: rest) = _
    rw [ih]

theorem commands_tokensOf (cs : List Command) (last : Command) :
    commands (tokensOf cs ++ last.map .word) = cs ++ [last] := by
  induction cs with
  | nil =>
    induction last with
    | nil => rfl
    | cons w last ih =>
      show (match commands (tokensOf [] ++ last.map .word) with
        | [] => [[w]]
        | ws :: rest => (w :: ws) :: rest) = _
      rw [ih]
      rfl
  | cons c cs ih =>
    have hcons : tokensOf (c :: cs) ++ last.map .word =
        c.map .word ++ .separator :: (tokensOf cs ++ last.map .word) := by
      simp [tokensOf]
    rw [hcons, commands_append, ih]
    rfl

theorem parse_of_scan {text : List Char} {cs : List Command} {last : Command}
    (h : scan .gap text = some (tokensOf cs ++ last.map .word)) (hcs : [] ∉ cs)
    (hlast : last ≠ []) : parse text = some (cs ++ [last]) := by
  unfold parse
  rw [h, Option.map_some, commands_tokensOf]
  refine congrArg some (List.filter_eq_self.mpr fun c hc => ?_)
  cases c with
  | nil =>
    rcases List.mem_append.mp hc with hc | hc
    · exact absurd hc hcs
    · exact absurd (List.mem_singleton.mp hc).symm hlast
  | cons w c => rfl

/-! ## Words as they are written -/

def word (w : String) : Word := .bare [.text w.toList]

def dollar (x : String) : Word := .bare [.var x.toList]

def bracket (t : String) : Word := .bare [.script t.toList]

def braces (t : String) : Word := .braced t.toList

/-- a command of words that stand for themselves -/
def plain (words : List String) : Command := words.map word

/-! ## A reading goes on where it stopped -/

/-- the tokens of a part of the script, and where it leaves the reader -/
def reads : Mode → List Char → Option (List Token × Mode)
  | m, [] => some ([], m)
  | m, c :: rest => (read m c).bind fun r => (reads r.2 rest).map fun q => (r.1 ++ q.1, q.2)

theorem scan_append {m m' : Mode} {tokens : List Token} {a : List Char} (b : List Char)
    (h : reads m a = some (tokens, m')) : scan m (a ++ b) = (scan m' b).map (tokens ++ ·) := by
  induction a generalizing m tokens with
  | nil =>
    obtain ⟨rfl, rfl⟩ := Prod.mk.inj (Option.some.inj h)
    exact (Option.map_id' ..).symm
  | cons c a ih =>
    obtain ⟨⟨front, next⟩, hc, h⟩ := Option.bind_eq_some_iff.mp h
    obtain ⟨⟨behind, last⟩, ha, h⟩ := Option.map_eq_some_iff.mp h
    obtain ⟨rfl, rfl⟩ := Prod.mk.inj h
    show (read m c).bind _ = _
    rw [hc, Option.bind_some]
    show (scan next (a ++ b)).map (front ++ ·) = (scan last b).map (front ++ behind ++ ·)
    rw [ih ha, Option.map_map]
    exact congrArg (fun f => (scan last b).map f) (funext fun tokens => (List.append_assoc ..).symm)

/-- how deep in braces a text ends, where it begins `depth` deep -/
def depthAfter : Nat → List Char → Option Nat
  | depth, [] => some depth
  | depth, c :: rest => (depthStep depth c).bind fun depth => depthAfter depth rest

/-- the braces of the text match -/
def Balanced (text : List Char) : Prop := depthAfter 0 text = some 0

instance (text : List Char) : Decidable (Balanced text) :=
  inferInstanceAs (Decidable (depthAfter 0 text = some 0))

theorem depthStep_deeper (k : Nat) {d e : Nat} {c : Char} (h : depthStep d c = some e) :
    depthStep (k + d) c = some (k + e) := by
  unfold depthStep at h ⊢
  by_cases hslash : c = '\\'
  · rw [if_pos hslash] at h
    cases h
  rw [if_neg hslash] at h ⊢
  by_cases hopen : c = '\x7b'
  · rw [if_pos hopen] at h ⊢
    obtain rfl := Option.some.inj h
    rfl
  rw [if_neg hopen] at h ⊢
  by_cases hclose : c = '\x7d'
  · rw [if_pos hclose] at h ⊢
    by_cases hd : d = 0
    · rw [if_pos hd] at h
      cases h
    rw [if_neg hd] at h
    obtain rfl := Option.some.inj h
    rw [if_neg (by omega), Nat.add_sub_assoc (Nat.one_le_iff_ne_zero.mpr hd)]
  · rw [if_neg hclose] at h ⊢
    obtain rfl := Option.some.inj h
    rfl

theorem inBraces_step (outer : Nat) {d e : Nat} {c : Char} (text : List Char)
    (h : depthStep d c = some e) :
    inBraces (outer + d) text c = some ([], .brace (outer + e) (text ++ [c])) := by
  have hopen : ¬ (c = '\x7d' ∧ outer + d = 0) := by
    rintro ⟨rfl, h0⟩
    obtain rfl : d = 0 := (Nat.add_eq_zero_iff.mp h0).2
    have hnone : depthStep 0 '\x7d' = none := by decide
    rw [hnone] at h
    cases h
  unfold inBraces
  rw [if_neg hopen, depthStep_deeper outer h]
  rfl

/-- the reader inside braces, over a text that ends `e` deep in its own -/
theorem reads_brace (outer : Nat) {d e : Nat} {inner : List Char} (text : List Char)
    (h : depthAfter d inner = some e) :
    reads (.brace (outer + d) text) inner = some ([], .brace (outer + e) (text ++ inner)) := by
  induction inner generalizing d text with
  | nil =>
    obtain rfl := Option.some.inj h
    rw [List.append_nil]
    rfl
  | cons c inner ih =>
    obtain ⟨d', hc, h⟩ := Option.bind_eq_some_iff.mp h
    show (inBraces (outer + d) text c).bind _ = _
    rw [inBraces_step outer text hc, Option.bind_some]
    show (reads (.brace (outer + d') (text ++ [c])) inner).map _ = _
    rw [ih _ h, Option.map_some, List.append_assoc]
    rfl

/-- **A word in braces**, whatever stands in it. -/
theorem scan_braced {m : Mode} {front inner behind : List Char} (tokens : List Token)
    {tokens' : List Token} (hfront : reads m front = some (tokens, .brace 0 []))
    (h : Balanced inner)
    (hbehind : scan .closed behind = some tokens') :
    scan m (front ++ (inner ++ '\x7d' :: behind)) =
      some (tokens ++ .word (.braced inner) :: tokens') := by
  have hclose : scan (.brace 0 inner) ('\x7d' :: behind) =
      some (.word (.braced inner) :: tokens') := by
    show (scan .closed behind).map ([.word (.braced inner)] ++ ·) = _
    rw [hbehind]
    rfl
  have hinner : reads (.brace 0 []) inner = some ([], .brace 0 inner) := reads_brace 0 [] h
  rw [scan_append _ hfront, scan_append _ hinner, hclose]
  rfl

/-! ## Matching braces -/

theorem depthAfter_append {d e : Nat} {a : List Char} (b : List Char)
    (h : depthAfter d a = some e) : depthAfter d (a ++ b) = depthAfter e b := by
  induction a generalizing d with
  | nil =>
    obtain rfl := Option.some.inj h
    rfl
  | cons c a ih =>
    obtain ⟨d', hc, h⟩ := Option.bind_eq_some_iff.mp h
    show (depthStep d c).bind _ = _
    rw [hc]
    exact ih h

/-- the same text inside more braces -/
theorem depthAfter_deeper (k : Nat) {d e : Nat} {a : List Char} (h : depthAfter d a = some e) :
    depthAfter (k + d) a = some (k + e) := by
  induction a generalizing d with
  | nil =>
    obtain rfl := Option.some.inj h
    rfl
  | cons c a ih =>
    obtain ⟨d', hc, h⟩ := Option.bind_eq_some_iff.mp h
    show (depthStep (k + d) c).bind _ = _
    rw [depthStep_deeper k hc]
    exact ih h

theorem Balanced.within {front inner behind : List Char} {d : Nat} (hi : Balanced inner)
    (hf : depthAfter 0 front = some d) (hb : depthAfter d behind = some 0) :
    Balanced (front ++ (inner ++ behind)) := by
  have hdeeper : depthAfter d inner = some d := depthAfter_deeper d hi
  unfold Balanced
  rw [depthAfter_append _ hf, depthAfter_append _ hdeeper, hb]

/-! ## Numbers -/

def hexDigit (c : Char) : Option Nat :=
  if c.isDigit then some (c.toNat - 48)
  else if 'a' ≤ c ∧ c ≤ 'f' then some (c.toNat - 87)
  else if 'A' ≤ c ∧ c ≤ 'F' then some (c.toNat - 55)
  else none

def hexNumber (digits : List Char) : Option Nat :=
  digits.foldlM (fun n c => (hexDigit c).map (16 * n + ·)) 0

/-- an unsigned number, hexadecimal behind `0x` -/
def number (text : List Char) : Option Nat :=
  if text.take 2 = ['0', 'x'] then
    if text.drop 2 = [] then none else hexNumber (text.drop 2)
  else if text ≠ [] ∧ text.all Char.isDigit then some (Nat.ofDigitChars 10 text 0)
  else none

/-- **A number that was printed is read back.** -/
theorem number_toString (n : Nat) : number (toString n).toList = some n := by
  have hdigits : ∀ c ∈ (toString n).toList, c.isDigit = true := fun c hc =>
    Digits.isDigit_of_mem hc
  have hx : (toString n).toList.take 2 ≠ ['0', 'x'] := by
    intro h
    have hmem : 'x' ∈ (toString n).toList :=
      List.mem_of_mem_take (h ▸ List.mem_cons_of_mem _ List.mem_cons_self)
    exact absurd (hdigits 'x' hmem) (by decide)
  unfold number
  rw [if_neg hx, if_pos ⟨Digits.ne_nil n, List.all_eq_true.mpr hdigits⟩,
    Digits.ofDigitChars_toString]

/-! ## Expressions -/

def operator : List Char → Option (Nat → Nat → Nat)
  | ['&'] => some (· &&& ·)
  | ['|'] => some (· ||| ·)
  | ['^'] => some (· ^^^ ·)
  | _ => none

def operand (vars : String → Option String) : List Char → Option Nat
  | '$' :: name => (vars (String.ofList name)).bind fun v => number v.toList
  | text => number text

/-- operands and operators apart by blanks -/
def terms (text : List Char) : List (List Char) :=
  (text.splitOnP isBlank).filter fun w => !w.isEmpty

/-- an expression of one operator or none -/
def exprValue (vars : String → Option String) (text : List Char) : Option Nat :=
  match terms text with
  | [a] => operand vars a
  | [a, op, b] =>
    (operator op).bind fun f => (operand vars a).bind fun m => (operand vars b).map (f m)
  | _ => none

theorem operand_dollar {vars : String → Option String} {x v : String} {n : Nat}
    (hx : vars x = some v) (hn : number v.toList = some n) :
    operand vars ('$' :: x.toList) = some n := by
  show (vars (String.ofList x.toList)).bind _ = _
  rw [String.ofList_toList, hx]
  exact hn

theorem operand_number {vars : String → Option String} {text : List Char}
    (h : text.head? ≠ some '$') : operand vars text = number text := by
  unfold operand
  split
  · exact absurd rfl h
  · rfl

/-- a variable and a number -/
theorem exprValue_mask {vars : String → Option String} {e x v : String} {op mask : List Char}
    {m n : Nat} {f : Nat → Nat → Nat} (hterms : terms e.toList = ['$' :: x.toList, op, mask])
    (hop : operator op = some f) (hx : vars x = some v) (hm : number v.toList = some m)
    (hmask : mask.head? ≠ some '$') (hn : number mask = some n) :
    exprValue vars e.toList = some (f m n) := by
  unfold exprValue
  rw [hterms]
  dsimp only
  rw [hop, operand_dollar hx hm, operand_number hmask, hn]
  rfl

/-! ## Running -/

/-- how a command ends -/
inductive Reply (τ : Type*) where
  | ok (value : String) (s : τ)
  | error (s : τ)
  /-- the program is left -/
  | exit (code : Int) (s : τ)

/-- what is said of each end -/
structure Post (τ : Type*) where
  ok : String → τ → Prop
  error : τ → Prop
  exit : Int → τ → Prop

namespace Reply
variable {τ υ : Type*}

def bind : Reply τ → (String → τ → Reply τ) → Reply τ
  | ok value s, f => f value s
  | error s, _ => error s
  | exit code s, _ => exit code s

def map (f : τ → υ) : Reply τ → Reply υ
  | ok value s => ok value (f s)
  | error s => error (f s)
  | exit code s => exit code (f s)

def Meets (r : Reply τ) (Q : Post τ) : Prop :=
  match r with
  | ok value s => Q.ok value s
  | error s => Q.error s
  | exit code s => Q.exit code s

instance (r : Reply τ) (Q : Post τ) [∀ value s, Decidable (Q.ok value s)]
    [∀ s, Decidable (Q.error s)] [∀ code s, Decidable (Q.exit code s)] : Decidable (r.Meets Q) :=
  match r with
  | ok value s => inferInstanceAs (Decidable (Q.ok value s))
  | error s => inferInstanceAs (Decidable (Q.error s))
  | exit code s => inferInstanceAs (Decidable (Q.exit code s))

/-- **Rule of composition.** -/
theorem Meets.bind {r : Reply τ} {f : String → τ → Reply τ} {Q : Post τ}
    (h : r.Meets { Q with ok := fun value s => (f value s).Meets Q }) : (r.bind f).Meets Q := by
  cases r with
  | ok value s => exact h
  | error s => exact h
  | exit code s => exact h

theorem Meets.map {r : Reply τ} {f : τ → υ} {Q : Post υ}
    (h : r.Meets ⟨fun value s => Q.ok value (f s), fun s => Q.error (f s),
      fun code s => Q.exit code (f s)⟩) : (r.map f).Meets Q := by
  cases r with
  | ok value s => exact h
  | error s => exact h
  | exit code s => exact h

/-- **Rule of consequence.** -/
theorem Meets.imp {r : Reply τ} {P Q : Post τ} (h : r.Meets P)
    (hok : ∀ value s, P.ok value s → Q.ok value s) (herror : ∀ s, P.error s → Q.error s)
    (hexit : ∀ code s, P.exit code s → Q.exit code s) : r.Meets Q := by
  cases r with
  | ok value s => exact hok value s h
  | error s => exact herror s h
  | exit code s => exact hexit code s h

end Reply

/-- the interpreter's variables, and the state of the program it is part of -/
structure Shell (σ : Type*) where
  vars : String → Option String
  host : σ

section
variable {σ : Type*}

def Shell.assign (name value : String) (s : Shell σ) : Shell σ :=
  { s with vars := fun x => if x = name then some value else s.vars x }

theorem Shell.assign_self (name value : String) (s : Shell σ) :
    (s.assign name value).vars name = some value :=
  if_pos rfl

theorem Shell.assign_of_ne {name x : String} (value : String) (s : Shell σ) (h : x ≠ name) :
    (s.assign name value).vars x = s.vars x :=
  if_neg h

def Shell.at (s : Shell σ) (h : σ) : Shell σ := { s with host := h }

abbrev Eval (σ : Type*) := String → Shell σ → Reply (Shell σ)

variable (host : List String → σ → Reply σ) (ev : Eval σ)

def substPiece : Piece → Shell σ → Reply (Shell σ)
  | .text t, s => .ok (String.ofList t) s
  | .var name, s =>
    match s.vars (String.ofList name) with
    | some value => .ok value s
    | none => .error s
  | .script t, s => ev (String.ofList t) s

def substPieces : List Piece → Shell σ → Reply (Shell σ)
  | [], s => .ok "" s
  | p :: ps, s => (substPiece ev p s).bind fun v s => (substPieces ps s).bind fun w s =>
      .ok (v ++ w) s

def substWord : Word → Shell σ → Reply (Shell σ)
  | .braced t, s => .ok (String.ofList t) s
  | .bare pieces, s => substPieces ev pieces s

/-- the words of a command one after the other, then what is done with them -/
def substWords : Command → Shell σ → (List String → Shell σ → Reply (Shell σ)) → Reply (Shell σ)
  | [], s, k => k [] s
  | w :: ws, s, k => (substWord ev w s).bind fun v s => substWords ws s fun vs s => k (v :: vs) s

def setVar (args : List String) (s : Shell σ) : Reply (Shell σ) :=
  match args with
  | [name] =>
    match s.vars name with
    | some value => .ok value s
    | none => .error s
  | [name, value] => .ok value (s.assign name value)
  | _ => .error s

def expr (args : List String) (s : Shell σ) : Reply (Shell σ) :=
  match exprValue s.vars (" ".intercalate args).toList with
  | some n => .ok (toString n) s
  | none => .error s

def ifElse (args : List String) (s : Shell σ) : Reply (Shell σ) :=
  match args with
  | cond :: body :: rest =>
    match exprValue s.vars cond.toList with
    | none => .error s
    | some n =>
      if n ≠ 0 then ev body s
      else match rest with
        | [] => .ok "" s
        | [word, other] => if word = "else" then ev other s else .error s
        | _ => .error s
  | _ => .error s

def leave (args : List String) (s : Shell σ) : Reply (Shell σ) :=
  match args with
  | [] => .exit 0 s
  | [code] =>
    match number code.toList with
    | some n => .exit n s
    | none => .error s
  | _ => .error s

def builtins : List String := ["set", "expr", "if", "exit"]

def invoke (words : List String) (s : Shell σ) : Reply (Shell σ) :=
  match words with
  | [] => .ok "" s
  | name :: args =>
    if name = "set" then setVar args s
    else if name = "expr" then expr args s
    else if name = "if" then ifElse ev args s
    else if name = "exit" then leave args s
    else (host words s.host).map s.at

/-- a row of commands; its value is that of the last -/
def run : String → List Command → Shell σ → Reply (Shell σ)
  | value, [], s => .ok value s
  | _, c :: cs, s => (substWords ev c s (invoke host ev)).bind fun value s => run value cs s

def eval : Nat → Eval σ
  | 0, _, s => .error s
  | n + 1, text, s =>
    match parse text.toList with
    | none => .error s
    | some cs => run host (eval n) "" cs s

theorem eval_succ {text : String} {cs : List Command} (n : Nat) (s : Shell σ)
    (h : parse text.toList = some cs) :
    eval host (n + 1) text s = run host (eval host n) "" cs s := by
  show (match parse text.toList with
    | none => Reply.error s
    | some cs => run host (eval host n) "" cs s) = _
  rw [h]

end

-- a script is read by `eval_succ` only
attribute [irreducible] eval

/-! ## Rules -/

section
variable {σ : Type*}

def Piece.value (vars : String → Option String) : Piece → Option String
  | .text t => some (String.ofList t)
  | .var name => vars (String.ofList name)
  | .script _ => none

def piecesValue (vars : String → Option String) : List Piece → Option String
  | [] => some ""
  | p :: ps => (p.value vars).bind fun v => (piecesValue vars ps).map (v ++ ·)

def Word.value (vars : String → Option String) : Word → Option String
  | .braced t => some (String.ofList t)
  | .bare pieces => piecesValue vars pieces

/-- the words of a command that no script has to be run for -/
def wordsOf (vars : String → Option String) : Command → Option (List String)
  | [] => some []
  | w :: ws => (w.value vars).bind fun v => (wordsOf vars ws).map (v :: ·)

section
variable {vars : String → Option String}

theorem value_word (w : String) : (word w).value vars = some w := by
  show some (String.ofList w.toList ++ "") = some w
  rw [String.ofList_toList, String.append_empty]

theorem value_dollar {x v : String} (h : vars x = some v) : (dollar x).value vars = some v := by
  show (vars (String.ofList x.toList)).bind _ = _
  rw [String.ofList_toList, h]
  exact congrArg some (String.append_empty ..)

theorem value_braces (t : String) : (braces t).value vars = some t :=
  congrArg some String.ofList_toList

theorem wordsOf_cons {w : Word} {ws : Command} {v : String} {vs : List String}
    (hw : w.value vars = some v) (hws : wordsOf vars ws = some vs) :
    wordsOf vars (w :: ws) = some (v :: vs) := by
  show (w.value vars).bind _ = _
  rw [hw, Option.bind_some, hws]
  rfl

theorem wordsOf_plain (words : List String) : wordsOf vars (plain words) = some words := by
  induction words with
  | nil => rfl
  | cons w words ih => exact wordsOf_cons (value_word w) ih

end

variable {host : List String → σ → Reply σ} {ev : Eval σ} {s : Shell σ} {Q : Post (Shell σ)}
  {c : Command} {cs : List Command} {v : String}

theorem substPieces_value {pieces : List Piece} {value : String}
    (h : piecesValue s.vars pieces = some value) : substPieces ev pieces s = .ok value s := by
  induction pieces generalizing value with
  | nil =>
    obtain rfl := Option.some.inj h
    rfl
  | cons p ps ih =>
    obtain ⟨w, hp, h⟩ := Option.bind_eq_some_iff.mp h
    obtain ⟨w', hps, rfl⟩ := Option.map_eq_some_iff.mp h
    have hpiece : substPiece ev p s = .ok w s := by
      cases p with
      | text t => exact congrArg (Reply.ok · s) (Option.some.inj hp)
      | var name =>
        show (match s.vars (String.ofList name) with
          | some value => Reply.ok value s
          | none => .error s) = _
        rw [show s.vars (String.ofList name) = some w from hp]
      | script t => cases hp
    show (substPiece ev p s).bind _ = _
    rw [hpiece]
    show (substPieces ev ps s).bind _ = _
    rw [ih hps]
    rfl

theorem substWords_value {words : List String} (k : List String → Shell σ → Reply (Shell σ))
    (h : wordsOf s.vars c = some words) : substWords ev c s k = k words s := by
  induction c generalizing words k with
  | nil =>
    obtain rfl := Option.some.inj h
    rfl
  | cons w ws ih =>
    obtain ⟨value, hw, h⟩ := Option.bind_eq_some_iff.mp h
    obtain ⟨values, hws, rfl⟩ := Option.map_eq_some_iff.mp h
    have hword : substWord ev w s = .ok value s := by
      cases w with
      | braced t => exact congrArg (Reply.ok · s) (Option.some.inj hw)
      | bare pieces => exact substPieces_value hw
    show (substWord ev w s).bind _ = _
    rw [hword]
    exact ih (fun vs s => k (value :: vs) s) hws

theorem run_nil (h : Q.ok v s) : (run host ev v [] s).Meets Q := h

/-- a command of the program -/
theorem run_host {name : String} {args : List String}
    (hwords : wordsOf s.vars c = some (name :: args)) (hname : name ∉ builtins)
    (h : (host (name :: args) s.host).Meets
      ⟨fun v t => (run host ev v cs (s.at t)).Meets Q, fun t => Q.error (s.at t),
        fun code t => Q.exit code (s.at t)⟩) :
    (run host ev v (c :: cs) s).Meets Q := by
  have hinvoke : substWords ev c s (invoke host ev) = (host (name :: args) s.host).map s.at := by
    rw [substWords_value _ hwords]
    unfold builtins at hname
    simp only [List.mem_cons, List.not_mem_nil, or_false, not_or] at hname
    unfold invoke
    dsimp only
    rw [if_neg hname.1, if_neg hname.2.1, if_neg hname.2.2.1, if_neg hname.2.2.2]
  show ((substWords ev c s (invoke host ev)).bind _).Meets Q
  rw [hinvoke]
  exact .bind (.map h)

/-- `set` to what a script gives -/
theorem run_set {x t : String}
    (h : (ev t s).Meets { Q with
      ok := fun value s => (run host ev value cs (s.assign x value)).Meets Q }) :
    (run host ev v ([word "set", word x, bracket t] :: cs) s).Meets Q := by
  have hword (w : String) : String.ofList w.toList ++ "" = w := by
    rw [String.ofList_toList, String.append_empty]
  have hinvoke : substWords ev [word "set", word x, bracket t] s (invoke host ev) =
      (ev t s).bind fun value s => .ok value (s.assign x value) := by
    show ((substPieces ev [.script t.toList] s).bind fun value s =>
      invoke host ev [String.ofList "set".toList ++ "", String.ofList x.toList ++ "", value] s) = _
    rw [hword, hword]
    show (((ev (String.ofList t.toList) s).bind fun value s => .ok (value ++ "") s).bind
      fun value s => .ok value (s.assign x value)) = _
    rw [String.ofList_toList]
    cases ev t s with
    | ok value s =>
      show Reply.ok (value ++ "") (s.assign x (value ++ "")) = .ok value (s.assign x value)
      rw [String.append_empty]
    | error s => rfl
    | exit code s => rfl
  show ((substWords ev _ s (invoke host ev)).bind _).Meets Q
  rw [hinvoke]
  exact .bind (.bind h)

/-- `set` to the value of an expression -/
theorem run_set_expr {x : String} {n : Nat} (t e : String) (m : Nat)
    (hparse : parse t.toList = some [[word "expr", braces e]])
    (hvalue : exprValue s.vars e.toList = some m)
    (h : (run host (eval host (n + 1)) (toString m) cs (s.assign x (toString m))).Meets Q) :
    (run host (eval host (n + 1)) v ([word "set", word x, bracket t] :: cs) s).Meets Q := by
  have hexpr : expr [e] s = .ok (toString m) s := by
    unfold expr
    rw [show " ".intercalate [e] = e from rfl, hvalue]
  have hwords : wordsOf s.vars [word "expr", braces e] = some ["expr", e] :=
    wordsOf_cons (value_word _) (wordsOf_cons (value_braces e) rfl)
  refine run_set ?_
  rw [eval_succ host n s hparse]
  show ((substWords _ [word "expr", braces e] s (invoke host _)).bind _).Meets _
  rw [substWords_value _ hwords]
  show ((expr [e] s).bind _).Meets _
  rw [hexpr]
  exact h

/-- one of two scripts -/
theorem run_if {cond body other : String} {n : Nat}
    (hwords : wordsOf s.vars c = some ["if", cond, body, "else", other])
    (hcond : exprValue s.vars cond.toList = some n)
    (h : (ev (if n ≠ 0 then body else other) s).Meets { Q with
      ok := fun value s => (run host ev value cs s).Meets Q }) :
    (run host ev v (c :: cs) s).Meets Q := by
  have hinvoke : substWords ev c s (invoke host ev) = ev (if n ≠ 0 then body else other) s := by
    rw [substWords_value _ hwords]
    show ifElse ev [cond, body, "else", other] s = _
    unfold ifElse
    dsimp only
    rw [hcond]
    by_cases hn : n ≠ 0
    · exact (if_pos hn).trans (by rw [if_pos hn])
    · exact (if_neg hn).trans (by rw [if_neg hn]; rfl)
  show ((substWords ev c s (invoke host ev)).bind _).Meets Q
  rw [hinvoke]
  exact .bind h

/-- `set` to a word -/
theorem run_assign {x value : String} (hwords : wordsOf s.vars c = some ["set", x, value])
    (h : (run host ev value cs (s.assign x value)).Meets Q) :
    (run host ev v (c :: cs) s).Meets Q := by
  show ((substWords ev c s (invoke host ev)).bind _).Meets Q
  rw [substWords_value _ hwords]
  exact h

theorem run_exit (h : Q.exit 0 s) : (run host ev v (plain ["exit"] :: cs) s).Meets Q := by
  show ((substWords ev (plain ["exit"]) s (invoke host ev)).bind _).Meets Q
  rw [substWords_value _ (wordsOf_plain _)]
  exact h

end

end QMon.Tcl
