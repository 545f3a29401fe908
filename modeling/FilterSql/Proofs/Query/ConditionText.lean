import FilterSql.Proofs.Query.OperatorKind

/-!
# The texts of conditions

What each condition writes in a dialect, spelled out. `Condition.fragment_eq_iff`: a condition has
the text and the values that `Condition.Writes` says, and no others.
-/

namespace FilterSql.Query

inductive Sign : Comparison → String → Prop
  | eq : Sign .eq "="
  | ne : Sign .ne "!="
  | lt : Sign .lt "<"
  | gt : Sign .gt ">"
  | le : Sign .le "<="
  | ge : Sign .ge ">="

/-- What stands in the text for a day. -/
inductive DayMark : Dialect → String → Prop
  | plain : DayMark .duckdb "?"
  | converted : DayMark .suiteql "TO_DATE(?, 'YYYY-MM-DD')"

/-- The text of a condition on the column `n` of the table with alias `a`, and the values of its
question marks from left to right. -/
inductive Condition.Writes (d : Dialect) : Condition → String → List Scalar → Prop
  | compare (hop : Sign op sign) :
      Writes d (.compare ⟨a, n⟩ op v) (a ++ "." ++ n ++ " " ++ sign ++ " ?") [v]
  | bound (hop : Sign op sign) (hd : DayMark d mark) :
      Writes d (.bound ⟨a, n⟩ op day) (a ++ "." ++ n ++ " " ++ sign ++ " " ++ mark) [.text day]
  | within (hd : DayMark d mark) :
      Writes d (.within ⟨a, n⟩ first last)
        (a ++ "." ++ n ++ " >= " ++ mark ++ " AND " ++ (a ++ "." ++ n) ++ " < " ++ mark)
        [.text first, .text last]
  | outside (hd : DayMark d mark) :
      Writes d (.outside ⟨a, n⟩ first last)
        ("NOT (" ++ (a ++ "." ++ n) ++ " >= " ++ mark ++ " AND " ++ (a ++ "." ++ n) ++ " < " ++
          mark ++ ")")
        [.text first, .text last]
  | like : Writes d (.like ⟨a, n⟩ false p) (a ++ "." ++ n ++ " LIKE ? ESCAPE '\\'") [.text p]
  | notLike : Writes d (.like ⟨a, n⟩ true p) (a ++ "." ++ n ++ " NOT LIKE ? ESCAPE '\\'") [.text p]
  | among : Writes d (.among ⟨a, n⟩ false vs)
      (a ++ "." ++ n ++ " IN (" ++ ", ".intercalate (vs.map fun _ => "?") ++ ")") vs
  | notAmong : Writes d (.among ⟨a, n⟩ true vs)
      (a ++ "." ++ n ++ " NOT IN (" ++ ", ".intercalate (vs.map fun _ => "?") ++ ")") vs
  | null : Writes d (.null ⟨a, n⟩ false) (a ++ "." ++ n ++ " IS NULL") []
  | notNull : Writes d (.null ⟨a, n⟩ true) (a ++ "." ++ n ++ " IS NOT NULL") []

theorem sign_symbol (op : Comparison) : Sign op op.symbol := by
  cases op <;> constructor

theorem dayMark_datePlaceholder (d : Dialect) : DayMark d d.datePlaceholder := by
  cases d <;> constructor

theorem Sign.eq_symbol (h : Sign op sign) : sign = op.symbol := by
  cases h <;> rfl

theorem DayMark.eq_datePlaceholder (h : DayMark d mark) : mark = d.datePlaceholder := by
  cases h <;> rfl

namespace Condition

theorem sql_withinFragment (d : Dialect) (c : Column) (first last : String) :
    (withinFragment d c first last).sql =
      c.sql ++ " >= " ++ d.datePlaceholder ++ " AND " ++ c.sql ++ " < " ++ d.datePlaceholder := by
  simp [withinFragment, boundFragment, Fragment.conjunction, Comparison.symbol,
    ← String.toList_inj]

theorem writes_fragment (d : Dialect) (c : Condition) :
    c.Writes d (c.fragment d).sql (c.fragment d).params := by
  have hday := dayMark_datePlaceholder d
  have marks (vs : List Scalar) : Fragment.placeholderList vs.length =
      ", ".intercalate (vs.map fun _ => "?") := by
    rw [Fragment.placeholderList, List.map_const']
  cases c with
  | compare c op v => exact .compare (sign_symbol op)
  | bound c op day => exact .bound (sign_symbol op) hday
  | within c first last => exact sql_withinFragment d c first last ▸ .within hday
  | outside c first last =>
    have whole : ((outside c first last).fragment d).sql = "NOT (" ++ c.sql ++ " >= " ++
        d.datePlaceholder ++ " AND " ++ c.sql ++ " < " ++ d.datePlaceholder ++ ")" := by
      simp [fragment, Fragment.negate, sql_withinFragment, String.append_assoc]
    exact whole ▸ .outside hday
  | like c negated pattern =>
    cases negated with
    | false =>
      have whole : ((like c false pattern).fragment d).sql = c.sql ++ " LIKE ? ESCAPE '\\'" :=
        String.append_assoc
      exact whole ▸ .like
    | true =>
      have whole : ((like c true pattern).fragment d).sql = c.sql ++ " NOT LIKE ? ESCAPE '\\'" :=
        String.append_assoc
      exact whole ▸ .notLike
  | among c negated vs =>
    cases negated with
    | false =>
      have whole : ((among c false vs).fragment d).sql =
          c.sql ++ " IN (" ++ ", ".intercalate (vs.map fun _ => "?") ++ ")" := by
        rw [← marks vs]
        rfl
      exact whole ▸ .among
    | true =>
      have whole : ((among c true vs).fragment d).sql =
          c.sql ++ " NOT IN (" ++ ", ".intercalate (vs.map fun _ => "?") ++ ")" := by
        rw [← marks vs]
        rfl
      exact whole ▸ .notAmong
  | null c negated =>
    cases negated with
    | false => exact .null
    | true => exact .notNull

theorem Writes.unique {c : Condition} (h : c.Writes d sql params) (h' : c.Writes d sql' params') :
    sql = sql' ∧ params = params' := by
  cases h with
  | compare hop =>
    cases h' with | compare hop' => exact ⟨by rw [hop.eq_symbol, hop'.eq_symbol], rfl⟩
  | bound hop hd =>
    cases h' with | bound hop' hd' =>
      rw [hop.eq_symbol, hop'.eq_symbol, hd.eq_datePlaceholder, hd'.eq_datePlaceholder]
      exact ⟨rfl, rfl⟩
  | within hd =>
    cases h' with | within hd' =>
      exact ⟨by rw [hd.eq_datePlaceholder, hd'.eq_datePlaceholder], rfl⟩
  | outside hd =>
    cases h' with | outside hd' =>
      exact ⟨by rw [hd.eq_datePlaceholder, hd'.eq_datePlaceholder], rfl⟩
  | like | notLike | among | notAmong | null | notNull => cases h'; exact ⟨rfl, rfl⟩

theorem fragment_eq_iff {c : Condition} {f : Fragment} :
    c.fragment d = f ↔ c.Writes d f.sql f.params := by
  constructor
  · rintro rfl
    exact c.writes_fragment d
  · intro h
    obtain ⟨hsql, hparams⟩ := (c.writes_fragment d).unique h
    exact congr (congrArg Fragment.mk hsql) hparams

end Condition

end FilterSql.Query
