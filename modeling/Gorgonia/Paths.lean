import Mathlib

/-!
# Where genapi reads and writes

`init` resolves `$GOPATH` (falling back to `~/go` when it is a directory) and
sets `gorgonialoc` to `path.Join(gopath, "src/gorgonia.org/gorgonia")`;
`main` then opens `path.Join(gorgonialoc, apigenOut)` with `O_TRUNC`, and
`generateUnary` and `generateBinary` parse `path.Join(gorgonialoc, unaryOps)`
and `path.Join(gorgonialoc, binaryOps)`.

`clean` is a total functional model of `path.Clean`: the loop over the bytes of
the path, with its switch on an empty, a `.`, a `..` and a real element, and the
inner loop that copies a real element.  The model reads the remaining bytes
instead of the index `r` (the lookahead `path[r+1]` is the head of the rest) and
keeps the bytes `out` holds up to `out.w`, last byte first.

`cleanLoop_append_slash` says the loop on `xs ++ '/' :: ys` is the loop on `xs`
continued on `ys`; `join_singleElement` follows: joining a directory with a file
name puts the name after one and the same directory prefix, whatever the name.
So the three paths genapi opens name siblings with distinct names
(`genapi_files_siblings`).  The file system is not modelled: that distinct paths
name distinct files (no links between them, no names equal up to case) is an
assumption about it, not a result here.
-/

set_option autoImplicit false

namespace Gorgonia

/-! ## `path.Clean` -/

/-- The state of the loop: the bytes of `out` up to `out.w`, last first; the
index `dotdot` where `..` must stop; and whether the inner loop that copies a
real element is running. -/
structure CleanState where
  out : List Char
  dotdot : Nat
  copying : Bool
deriving DecidableEq, Repr

/-- `r+1 == n || path[r+1] == '/'`, on the bytes after the current one. -/
def atElementEnd : List Char → Bool
  | [] => true
  | c :: _ => c == '/'

/-- `out.w--`, then `for out.w > dotdot && out.index(out.w) != '/' { out.w-- }`. -/
def backtrack (dotdot : Nat) : List Char → List Char
  | [] => []
  | c :: out => if dotdot < out.length ∧ c ≠ '/' then backtrack dotdot out else out

/-- The `..` element: back up over the last element, or, when there is none to
back up over and the path is relative, append a `..` element. -/
def CleanState.dotDot (rooted : Bool) (st : CleanState) : CleanState :=
  if st.dotdot < st.out.length then { st with out := backtrack st.dotdot st.out }
  else if !rooted then
    let out := '.' :: '.' :: (if 0 < st.out.length then '/' :: st.out else st.out)
    { st with out := out, dotdot := out.length }
  else st

/-- "add slash if needed": `rooted && out.w != 1 || !rooted && out.w != 0`. -/
def CleanState.withSlash (rooted : Bool) (st : CleanState) : List Char :=
  if rooted && st.out.length != 1 || !rooted && st.out.length != 0 then '/' :: st.out else st.out

/-- A real element starts with the byte `c`: the slash if needed, `c`, and the
inner loop copies the rest of the element. -/
def CleanState.startElement (rooted : Bool) (st : CleanState) (c : Char) : CleanState :=
  ⟨c :: st.withSlash rooted, st.dotdot, true⟩

/-- `out.append('/')` and `dotdot = 1` before the loop of a rooted path. -/
def CleanState.start (rooted : Bool) : CleanState := if rooted then ⟨['/'], 1, false⟩ else ⟨[], 0, false⟩

/-- The loop `for r < n { switch { ... } }`, on the bytes from `r` on. -/
def cleanLoop (rooted : Bool) (st : CleanState) : List Char → CleanState
  | [] => st
  | c :: rest =>
      if st.copying && c != '/' then cleanLoop rooted { st with out := c :: st.out } rest
      else if c = '/' then cleanLoop rooted { st with copying := false } rest
      else if c = '.' && atElementEnd rest then cleanLoop rooted st rest
      else
        match rest with
        | d :: rest' =>
            if c = '.' && d = '.' && atElementEnd rest' then cleanLoop rooted (st.dotDot rooted) rest'
            else cleanLoop rooted (st.startElement rooted c) (d :: rest')
        | [] => cleanLoop rooted (st.startElement rooted c) []

/-- `path.Clean`. -/
def clean (path : String) : String :=
  if path = "" then "." else
    let rooted := path.data.head? == some '/'
    let st := cleanLoop rooted (.start rooted) (path.data.drop (if rooted then 1 else 0))
    if st.out = [] then "." else ⟨st.out.reverse⟩

example : clean "a//b/./c/../../d/" = "a/d" ∧ clean "/../x/.." = "/" ∧ clean "../a/../.." = "../.." ∧
    clean "a/.." = "." ∧ clean "" = "." := by decide

/-- `path.Join`: the elements from the first non-empty one, joined by `/`, cleaned. -/
def join : List String → String
  | [] => ""
  | e :: elem => if e = "" then join elem else clean ("/".intercalate (e :: elem))

/-! ## The files genapi touches -/

def apigenOut : String := "api_gen.go"

def unaryOps : String := "operatorPointwise_unary_const.go"

def binaryOps : String := "operatorPointwise_binary_const.go"

/-- What `init` reads from the system: `os.Getenv("GOPATH")`; `user.Current()`,
the error's text or the user's `HomeDir`; and `os.Stat`, the error's text or
`IsDir()` of the file. -/
structure InitEnv where
  gopath : String
  currentUser : Except String String
  stat : String → Except String Bool

/-- The path part of `init`: `log.Fatal`'s argument, or `gorgonialoc`. -/
def init (env : InitEnv) : Except String String := do
  let gopath ← if env.gopath = "" then do
      let home ← env.currentUser
      let gopath := join [home, "go"]
      let isDir ← env.stat gopath
      if !isDir then throw "You need to define a $GOPATH"
      pure gopath
    else pure env.gopath
  pure (join [gopath, "src/gorgonia.org/gorgonia"])

/-- `outFileName` in `main`. -/
def outFileName (gorgonialoc : String) : String := join [gorgonialoc, apigenOut]

/-- `filename` in `generateUnary`. -/
def unaryFileName (gorgonialoc : String) : String := join [gorgonialoc, unaryOps]

/-- `filename` in `generateBinary`. -/
def binaryFileName (gorgonialoc : String) : String := join [gorgonialoc, binaryOps]

/-! ## One turn of the loop -/

@[simp] theorem atElementEnd_nil : atElementEnd [] = true := rfl

@[simp] theorem atElementEnd_cons (c : Char) (rest : List Char) : atElementEnd (c :: rest) = (c == '/') := rfl

@[simp] theorem atElementEnd_append_slash (l ys : List Char) : atElementEnd (l ++ '/' :: ys) = atElementEnd l := by
  cases l <;> rfl

theorem cleanLoop_cons (rooted : Bool) (st : CleanState) (c : Char) (rest : List Char) :
    cleanLoop rooted st (c :: rest) =
      if st.copying && c != '/' then cleanLoop rooted { st with out := c :: st.out } rest
      else if c = '/' then cleanLoop rooted { st with copying := false } rest
      else if c = '.' && atElementEnd rest then cleanLoop rooted st rest
      else if c = '.' && rest.head? == some '.' && atElementEnd rest.tail then
        cleanLoop rooted (st.dotDot rooted) rest.tail
      else cleanLoop rooted (st.startElement rooted c) rest := by
  cases rest <;> simp [cleanLoop]

@[simp] theorem cleanLoop_slash (rooted : Bool) (st : CleanState) (ys : List Char) :
    cleanLoop rooted st ('/' :: ys) = cleanLoop rooted { st with copying := false } ys := by
  cases ys <;> simp [cleanLoop]

theorem cleanLoop_copying (rooted : Bool) (out : List Char) (dotdot : Nat) (cs : List Char) (noSlash : '/' ∉ cs) :
    cleanLoop rooted ⟨out, dotdot, true⟩ cs = ⟨cs.reverse ++ out, dotdot, true⟩ := by
  induction cs generalizing out with
  | nil => rfl
  | cons c cs ih =>
      have c_ne : c ≠ '/' := fun same => noSlash (same ▸ List.mem_cons_self c cs)
      rw [cleanLoop_cons, if_pos (by simpa using c_ne), ih _ fun mem => noSlash (List.mem_cons_of_mem c mem)]
      simp

@[simp] theorem withSlash_endElement (rooted : Bool) (st : CleanState) :
    CleanState.withSlash rooted { st with copying := false } = st.withSlash rooted := rfl

/-! ## What every turn keeps -/

theorem cleanLoop_preserves (rooted : Bool) (P : CleanState → Prop)
    (copy : ∀ st c, P st → P { st with out := c :: st.out })
    (endElement : ∀ st, P st → P { st with copying := false })
    (dotDot : ∀ st, P st → P (st.dotDot rooted))
    (start : ∀ st c, P st → P (st.startElement rooted c)) (st : CleanState) (xs : List Char) (initial : P st) :
    P (cleanLoop rooted st xs) := by
  induction st, xs using cleanLoop.induct rooted with
  | case1 st => exact initial
  | case2 st c tail copying ih => rw [cleanLoop_cons, if_pos copying]; exact ih (copy st c initial)
  | case3 st tail _ ih => rw [cleanLoop_slash]; exact ih (endElement st initial)
  | case4 st c tail copying slash dot ih => rw [cleanLoop_cons, if_neg copying, if_neg slash, if_pos dot]; exact ih initial
  | case5 st c copying slash d rest' dotdot dot ih =>
      rw [cleanLoop.eq_2, if_neg copying, if_neg slash, if_neg dot, if_pos dotdot]; exact ih (dotDot st initial)
  | case6 st c copying slash d rest' dotdot dot ih =>
      rw [cleanLoop.eq_2, if_neg copying, if_neg slash, if_neg dot, if_neg dotdot]; exact ih (start st c initial)
  | case7 st c copying slash dot ih =>
      rw [cleanLoop.eq_3, if_neg copying, if_neg slash, if_neg dot]; exact ih (start st c initial)

theorem backtrack_suffix (dotdot : Nat) (out : List Char) : (backtrack dotdot out).IsSuffix out := by
  induction out with
  | nil => exact List.suffix_refl []
  | cons c out ih =>
      unfold backtrack
      split
      · exact ih.trans (List.suffix_cons c out)
      · exact List.suffix_cons c out

theorem dotdot_le_backtrack (dotdot : Nat) (out : List Char) (above : dotdot < out.length) :
    dotdot ≤ (backtrack dotdot out).length := by
  induction out with
  | nil => exact absurd above (Nat.not_lt_zero _)
  | cons c out ih =>
      unfold backtrack
      split
      · next cond => exact ih cond.1
      · simp only [List.length_cons] at above
        omega

/-- In a rooted path the leading `/` stays at the bottom of `out`, where `dotdot`
stops every `..`. -/
def RootKept (st : CleanState) : Prop := List.IsSuffix ['/'] st.out ∧ st.dotdot = 1

theorem rootKept_cleanLoop (st : CleanState) (xs : List Char) (kept : RootKept st) :
    RootKept (cleanLoop true st xs) := by
  refine cleanLoop_preserves true RootKept (fun st c kept => ⟨kept.1.trans (List.suffix_cons c _), kept.2⟩)
    (fun st kept => kept) (fun st kept => ?_) (fun st c kept => ⟨?_, kept.2⟩) st xs kept
  · unfold CleanState.dotDot
    split
    · next above =>
        refine ⟨List.suffix_of_suffix_length_le kept.1 (backtrack_suffix _ _) ?_, kept.2⟩
        have := dotdot_le_backtrack _ _ above
        have one := kept.2
        simp only [List.length_singleton]
        omega
    · exact kept
  · show List.IsSuffix ['/'] (c :: st.withSlash true)
    unfold CleanState.withSlash
    split
    · exact (kept.1.trans (List.suffix_cons '/' _)).trans (List.suffix_cons c _)
    · exact kept.1.trans (List.suffix_cons c _)

/-! ## A path and one more element -/

theorem cleanLoop_append_slash (rooted : Bool) : ∀ (st : CleanState) (xs ys : List Char),
    cleanLoop rooted st (xs ++ '/' :: ys) = cleanLoop rooted { cleanLoop rooted st xs with copying := false } ys
  | st, [], ys => by simp [cleanLoop]
  | st, [c], ys => by
      simp only [List.singleton_append, cleanLoop.eq_2, cleanLoop.eq_3, cleanLoop.eq_1, cleanLoop_slash]
      split <;> [skip; split <;> [skip; split]] <;> simp_all
  | st, c :: d :: rest', ys => by
      simp only [List.cons_append, cleanLoop.eq_2, atElementEnd_cons, atElementEnd_append_slash]
      split <;> [skip; split <;> [skip; split <;> [skip; split]]] <;>
        simp only [← List.cons_append, cleanLoop_append_slash rooted _ (d :: rest'),
          cleanLoop_append_slash rooted _ rest']

/-- A file name: one element that is neither `.` nor `..`. -/
def singleElement (name : String) : Prop := name ≠ "" ∧ name ≠ "." ∧ name ≠ ".." ∧ '/' ∉ name.data

instance : DecidablePred singleElement := fun _ => inferInstanceAs (Decidable (_ ∧ _ ∧ _ ∧ _))

theorem cleanLoop_singleElement (rooted : Bool) (st : CleanState) (between : st.copying = false) (name : String)
    (plain : singleElement name) :
    cleanLoop rooted st name.data = ⟨name.data.reverse ++ st.withSlash rooted, st.dotdot, true⟩ := by
  obtain ⟨nonempty, notDot, notDotDot, noSlash⟩ := plain
  match chars : name.data, noSlash with
  | [], _ => exact absurd (String.ext chars) nonempty
  | c :: cs, noSlash =>
      have c_ne : c ≠ '/' := fun same => noSlash (same ▸ List.mem_cons_self c cs)
      have cs_noSlash : '/' ∉ cs := fun mem => noSlash (List.mem_cons_of_mem c mem)
      have notDotElement : (c = '.' && atElementEnd cs) = false := by
        match cs, cs_noSlash with
        | [], _ =>
            simp only [atElementEnd_nil, Bool.and_true, decide_eq_false_iff_not]
            exact fun dot => notDot (String.ext (by rw [chars, dot]))
        | d :: _, cs_noSlash =>
            simp only [atElementEnd_cons, Bool.and_eq_false_iff, decide_eq_false_iff_not, beq_eq_false_iff_ne]
            exact .inr fun slash => cs_noSlash (slash ▸ List.mem_cons_self d _)
      have notDotDotElement : (c = '.' && cs.head? == some '.' && atElementEnd cs.tail) = false := by
        match cs, cs_noSlash with
        | [], _ => simp
        | [d], _ =>
            simp only [List.head?_cons, List.tail_cons, atElementEnd_nil, Bool.and_true, Bool.and_eq_false_iff,
              decide_eq_false_iff_not, beq_eq_false_iff_ne, ne_eq, Option.some.injEq]
            by_cases dot : c = '.'
            · exact .inr fun dot' => notDotDot (String.ext (by rw [chars, dot, dot']))
            · exact .inl dot
        | d :: e :: _, cs_noSlash =>
            simp only [List.tail_cons, atElementEnd_cons, Bool.and_eq_false_iff, beq_eq_false_iff_ne]
            exact .inr fun slash => cs_noSlash (slash ▸ List.mem_cons_of_mem d (List.mem_cons_self e _))
      rw [cleanLoop_cons, if_neg (by simp [between]), if_neg c_ne, if_neg (by simp [notDotElement]),
        if_neg (by simp [notDotDotElement]), CleanState.startElement, cleanLoop_copying _ _ _ _ cs_noSlash]
      simp

theorem clean_singleElement (name : String) (plain : singleElement name) : clean name = name := by
  have first : (name.data.head? == some '/') = false := by
    cases chars : name.data with
    | nil => rfl
    | cons c cs => simpa [chars] using fun same : c = '/' => plain.2.2.2 (by simp [chars, same])
  unfold clean
  simp only [if_neg plain.1, first, CleanState.start, Bool.false_eq_true, if_false, List.drop_zero]
  rw [cleanLoop_singleElement false _ rfl name plain]
  have name_chars : name.data ≠ [] := fun empty => plain.1 (String.ext empty)
  simp [CleanState.withSlash, String.ext_iff, name_chars]

/-- The bytes `clean` puts before one more element after `loc`: the loop's
output on `loc` with the slash if needed, last byte first. -/
def dirPrefix (loc : String) : List Char :=
  let rooted := loc.data.head? == some '/'
  (cleanLoop rooted (.start rooted) (loc.data.drop (if rooted then 1 else 0))).withSlash rooted

theorem clean_append_singleElement (loc name : String) (nonempty : loc ≠ "") (plain : singleElement name) :
    clean (loc ++ "/" ++ name) = ⟨(dirPrefix loc).reverse⟩ ++ name := by
  have chars : loc.data ≠ [] := fun empty => nonempty (String.ext empty)
  have first : (loc ++ "/" ++ name).data.head? = loc.data.head? := by
    simp only [String.data_append, List.append_assoc, List.head?_append_of_ne_nil _ chars]
  have dropped (k : Nat) (small : k ≤ 1) :
      (loc ++ "/" ++ name).data.drop k = loc.data.drop k ++ '/' :: name.data := by
    have : k ≤ loc.data.length := small.trans (List.length_pos.mpr chars)
    simp only [String.data_append, List.append_assoc, List.drop_append_of_le_length this]
    rfl
  have joined_ne : loc ++ "/" ++ name ≠ "" := fun empty => chars (by simpa using congrArg String.data empty)
  have name_chars : name.data ≠ [] := fun empty => plain.1 (String.ext empty)
  unfold clean dirPrefix
  simp only [if_neg joined_ne, first]
  rw [dropped _ (by split <;> omega), cleanLoop_append_slash, cleanLoop_singleElement _ _ rfl name plain,
    withSlash_endElement]
  simp [String.ext_iff, name_chars]

theorem dirPrefix_shape (loc : String) :
    (dirPrefix loc).reverse = [] ∨ (dirPrefix loc).reverse.getLast? = some '/' := by
  unfold dirPrefix
  dsimp only
  generalize (loc.data.head? == some '/') = rooted
  cases rooted
  · simp only [CleanState.withSlash, Bool.false_and, Bool.not_false, Bool.true_and, Bool.false_or,
      Bool.false_eq_true, if_false, List.drop_zero]
    split
    · exact .inr (by simp)
    · next noSlash => exact .inl (by simpa using noSlash)
  · have kept := rootKept_cleanLoop (.start true) (loc.data.drop 1) ⟨List.suffix_refl _, rfl⟩
    simp only [eq_self_iff_true, if_true, CleanState.withSlash, Bool.true_and, Bool.not_true, Bool.false_and,
      Bool.or_false]
    split
    · exact .inr (by simp)
    · next noSlash =>
        simp only [bne_iff_ne, ne_eq, Decidable.not_not] at noSlash
        rw [← kept.1.eq_of_length (by simpa using noSlash.symm)]
        exact .inr rfl

theorem join_singleElement (loc : String) :
    ∃ dir : String, (dir = "" ∨ dir.data.getLast? = some '/') ∧
      ∀ name, singleElement name → join [loc, name] = dir ++ name := by
  by_cases empty : loc = ""
  · refine ⟨"", .inl rfl, fun name plain => ?_⟩
    rw [empty, join, if_pos rfl, join, if_neg plain.1]
    exact (clean_singleElement name plain).trans (String.empty_append name).symm
  · refine ⟨⟨(dirPrefix loc).reverse⟩, (dirPrefix_shape loc).imp (congrArg String.mk) id, fun name plain => ?_⟩
    rw [join, if_neg empty]
    exact clean_append_singleElement loc name empty plain

/-! ## The three files -/

/-- Whatever directory `init` computed, the paths `main` opens for writing and
`generateUnary` and `generateBinary` parse are three different paths: the same
directory prefix followed by three different file names. -/
theorem genapi_files_siblings (gorgonialoc : String) :
    outFileName gorgonialoc ≠ unaryFileName gorgonialoc ∧ outFileName gorgonialoc ≠ binaryFileName gorgonialoc ∧
      unaryFileName gorgonialoc ≠ binaryFileName gorgonialoc ∧
      ∃ dir : String, (dir = "" ∨ dir.data.getLast? = some '/') ∧ outFileName gorgonialoc = dir ++ apigenOut ∧
        unaryFileName gorgonialoc = dir ++ unaryOps ∧ binaryFileName gorgonialoc = dir ++ binaryOps := by
  obtain ⟨dir, shape, joined⟩ := join_singleElement gorgonialoc
  rw [outFileName, unaryFileName, binaryFileName, joined apigenOut (by decide), joined unaryOps (by decide),
    joined binaryOps (by decide)]
  refine ⟨?_, ?_, ?_, dir, shape, rfl, rfl, rfl⟩ <;>
    simp [String.ext_iff, apigenOut, unaryOps, binaryOps]

end Gorgonia
