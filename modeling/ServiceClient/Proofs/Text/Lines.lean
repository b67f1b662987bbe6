/-
**What is left of a text that is drained.**

Draining goes line by line, but what comes of it can be told without lines: every line end of the
text has become a line feed, and a text that does not end with one has got one at its end.  Nothing
else ends a line, so nothing else is changed.

Main definitions:

* `ServiceClient.Text.uniform`: a text with its line ends as line feeds;
* `ServiceClient.Text.ended`: a text with a line feed at its end, unless it is empty.

Main results:

* `ServiceClient.Text.drain_lines`: **the drained lines of a text are the text, uniform and ended**.
-/

import ServiceClient.Text.Encoding

set_option autoImplicit false

namespace ServiceClient.Text

/-- A text whose line ends, a carriage return, a line feed, or the two together, are line feeds. -/
def uniform : List Char → List Char
  | [] => []
  | '\r' :: '\n' :: rest => '\n' :: uniform rest
  | '\r' :: rest => '\n' :: uniform rest
  | c :: rest => c :: uniform rest

/-- A text with a line feed at its end; an empty one stays empty. -/
def ended (cs : List Char) : List Char :=
  if cs = [] ∨ cs.getLast? = some '\n' then cs else cs ++ ['\n']

@[simp] theorem ended_nil : ended [] = [] := rfl

/-- What precedes a line feed has no part in how a text ends. -/
theorem ended_append_newline (front rest : List Char) :
    ended (front ++ '\n' :: rest) = front ++ '\n' :: ended rest := by
  cases rest with
  | nil => simp [ended]
  | cons c cs =>
      have hlast : (front ++ '\n' :: c :: cs).getLast? = (c :: cs).getLast? := by
        simp [List.getLast?_append, List.getLast?_cons]
      by_cases h : (c :: cs).getLast? = some '\n'
      · simp [ended, hlast, h]
      · simp [ended, hlast, h]

/-- The last line lacks its end, unless there is nothing in it. -/
theorem ended_of_notMem {line : List Char} (h : '\n' ∉ line) (hne : line ≠ []) :
    ended line = line ++ ['\n'] := by
  refine if_neg ?_
  rintro (hnil | hlast)
  · exact hne hnil
  · exact h (List.mem_of_getLast? hlast)

theorem chomp_of_notMem {line : List Char} (h : '\n' ∉ line) : chomp line = line :=
  if_neg fun hlast => h (List.mem_of_getLast? hlast)

/-- A line that is closed is drained as it is, and the next one is open. -/
theorem drain_closed (line : List Char) (done : List (List Char)) (rest : List Char) :
    drain (('\n' :: line).reverse :: done).reverse ++ ended (uniform rest) =
      drain done.reverse ++ ended (line.reverse ++ '\n' :: uniform rest) := by
  simp [ended_append_newline, drain, chomp]

/-- From an open line on: the lines before it are drained, and what is open goes on. -/
theorem drain_linesAfter {line : List Char} (hline : '\n' ∉ line) (done : List (List Char))
    (cs : List Char) : drain (linesAfter line done cs) =
      drain done.reverse ++ ended (line.reverse ++ uniform cs) := by
  -- by induction along the reading of lines; a line end closes the open line
  induction line, done, cs using linesAfter.induct with
  | case1 line done hempty =>
      rw [linesAfter, if_pos hempty, List.isEmpty_iff.mp hempty]
      simp [uniform]
  | case2 line done hempty =>
      have hne : line.reverse ≠ [] := by simpa using hempty
      have hfree : '\n' ∉ line.reverse := by simpa using hline
      rw [linesAfter, if_neg hempty, uniform, List.append_nil, ended_of_notMem hfree hne]
      simp [drain, chomp_of_notMem hfree]
  | case3 line done rest ih =>
      rw [linesAfter, uniform, ih List.not_mem_nil]
      exact drain_closed line done rest
  | case4 line done rest hlone ih =>
      rw [linesAfter, uniform, ih List.not_mem_nil]
      · exact drain_closed line done rest
      · exact hlone
      · exact hlone
  | case5 line done rest ih =>
      rw [linesAfter, uniform, ih List.not_mem_nil]
      · exact drain_closed line done rest
      · exact fun _ h => absurd h (by decide)
      · exact fun h => absurd h (by decide)
  | case6 line done c rest hpair hreturn hfeed ih =>
      have hfree : '\n' ∉ c :: line := by
        rw [List.mem_cons, not_or]
        exact ⟨fun h => hfeed h.symm, hline⟩
      rw [linesAfter, uniform, ih hfree]
      · simp
      all_goals assumption

/-- **The drained lines of a text are the text, uniform and ended.** -/
theorem drain_lines (cs : List Char) : drain (lines cs) = ended (uniform cs) := by
  rw [lines, drain_linesAfter List.not_mem_nil]
  rfl

/-- A carriage return ends a line as well, and the last line gets its end. -/
example : drain (lines ['a', '\r', '\n', 'b', '\r', 'c']) = ['a', '\n', 'b', '\n', 'c', '\n'] := by
  decide

end ServiceClient.Text
