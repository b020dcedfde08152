import Accounts.Database.Schema
import Accounts.Database.Url

/-!
# The migration of the table of accounts

The statements that make the table and take it away again, as lines of SQL, for two dialects.  A
table of versions records which migration was run last.
-/

namespace Accounts.Database

/-- The dialects that statements are written in. -/
inductive Dialect where
  | postgresql
  | sqlite
  deriving DecidableEq

/-- The dialect of an address. -/
def Dialect.ofUrl? (u : Url) : Option Dialect :=
  match u.dialect.1 with
  | "postgresql" => some .postgresql
  | "sqlite" => some .sqlite
  | _ => none

/-- The identifier of the migration. -/
def revision : String := "5f2a9c1e7b3d"

/-- The type of a column in a dialect. -/
def ColumnType.sql : Dialect → ColumnType → String
  | .postgresql, identifier => "UUID"
  | .sqlite, identifier => "CHAR(32)"
  | _, text limit => "VARCHAR(" ++ Number.natText limit ++ ")"
  | _, longText => "TEXT"
  | _, integer => "INTEGER"
  | _, date => "DATE"
  | .postgresql, timestamp => "TIMESTAMP WITH TIME ZONE DEFAULT now()"
  | .sqlite, timestamp => "DATETIME DEFAULT (now())"

/-- The line of a column. -/
def Column.sql (d : Dialect) (c : Column) : String :=
  "    " ++ c.name ++ " " ++ c.type.sql d ++ (if c.nullable then "," else " NOT NULL,")

/-- The comments on columns, where the dialect has them. -/
def commentLines (d : Dialect) (table : String) (columns : List Column) : List String :=
  if d = .sqlite then []
  else columns.filterMap fun c => c.comment.map fun text =>
    "COMMENT ON COLUMN " ++ table ++ "." ++ c.name ++ " IS '" ++ text ++ "';"

/-- Statements in one transaction, where the dialect has transactions for them. -/
def inTransaction (d : Dialect) (lines : List String) : List String :=
  if d = .sqlite then lines else "BEGIN;" :: lines ++ ["COMMIT;"]

/-- The statement that records the migration. -/
def recordLine (d : Dialect) : String :=
  "INSERT INTO alembic_version (version_num) VALUES ('" ++ revision ++ "') RETURNING "
    ++ (if d = .sqlite then "version_num;" else "alembic_version.version_num;")

/-- The lines that make the table. -/
def upgrade (d : Dialect) : List String :=
  inTransaction d <|
    ["CREATE TABLE alembic_version (",
      "    version_num VARCHAR(32) NOT NULL,",
      "    CONSTRAINT alembic_version_pkc PRIMARY KEY (version_num)",
      ");",
      "-- Running upgrade  -> " ++ revision,
      "CREATE TABLE accounts ("]
    ++ accountColumns.map (Column.sql d)
    ++ ["    PRIMARY KEY (id)", ");"]
    ++ commentLines d "accounts" accountColumns
    ++ ["CREATE UNIQUE INDEX ix_accounts_email ON accounts (email);", recordLine d]

/-- The lines that take the table away. -/
def downgrade (d : Dialect) : List String :=
  inTransaction d
    ["-- Running downgrade " ++ revision ++ " ->",
      "DROP INDEX ix_accounts_email;",
      "DROP TABLE accounts;",
      "DELETE FROM alembic_version WHERE alembic_version.version_num = '" ++ revision ++ "';"]

end Accounts.Database
