import Preflight.Text.Lowercase
import Preflight.Text.Part

/-!
# Kinds of databases

The database that a connection URL or a driver package speaks of.
-/

set_option autoImplicit false

namespace Preflight.DatabaseKind

/-- Words in a URL that name a database; the first one found decides. -/
def markers : List (String × String) :=
  [("mongodb", "MongoDB"), ("postgres", "PostgreSQL"), ("mysql", "MySQL"), ("redis", "Redis")]

/-- The database that a URL names. -/
def ofUrl? (url : String) : Option String :=
  let lowered := Text.lower url
  (markers.find? fun (word, _) => Text.mentions word lowered).map (·.2)

/-- Driver packages and their databases; an earlier one decides. -/
def drivers : List (String × String) :=
  [("mongoose", "MongoDB"), ("mongodb", "MongoDB"), ("pg", "PostgreSQL"), ("mysql2", "MySQL"),
   ("mysql", "MySQL"), ("redis", "Redis"), ("ioredis", "Redis"), ("prisma", "Prisma ORM"),
   ("sequelize", "Sequelize ORM"), ("typeorm", "TypeORM")]

end Preflight.DatabaseKind
