/-!
# `SchemaModel.Catalog.Postgres.Statements` — the catalog queries of PostgreSQL

The texts of the queries that read PostgreSQL's catalog. The order of the selected columns is the order in
which `SchemaModel.Catalog.Postgres` takes the cells of a row.

## Contents
- **Tables.** `tables`, `columns`, `columnFlags`, `keyConstraints`, `foreignKeys`.
- **Routines.** `routines`, `parameters`, `outParameters`.
- **Types.** `userType`.
-/

namespace SchemaModel.Postgres.Statements

/-- Base tables with their comments, outside the schemas given. -/
def tables : String :=
  "SELECT n.nspname::text, c.relname::text, obj_description(c.oid, 'pg_class')
    FROM pg_catalog.pg_class c
    JOIN pg_catalog.pg_namespace n ON n.oid = c.relnamespace
    WHERE c.relkind IN ('r', 'p')
      AND NOT c.relispartition
      AND n.nspname <> ALL($1)
    ORDER BY n.nspname, c.relname"

/-- The columns of a table with their types and sizes. -/
def columns : String :=
  "SELECT
        a.attname::text,
        a.attnum::int4,
        format_type(a.atttypid, NULL),
        CASE WHEN a.atttypid IN (1042, 1043) AND a.atttypmod > 4
             THEN a.atttypmod - 4 END,
        CASE WHEN a.atttypid = 1700 AND a.atttypmod > 4
             THEN ((a.atttypmod - 4) >> 16) & 65535 END,
        CASE WHEN a.atttypid = 1700 AND a.atttypmod > 4
             THEN (a.atttypmod - 4) & 65535 END,
        col_description(a.attrelid, a.attnum)
    FROM pg_catalog.pg_attribute a
    JOIN pg_catalog.pg_class c ON c.oid = a.attrelid
    JOIN pg_catalog.pg_namespace n ON n.oid = c.relnamespace
    WHERE n.nspname = $1 AND c.relname = $2
      AND a.attnum > 0 AND NOT a.attisdropped
    ORDER BY a.attnum"

/-- How the columns of a table get their values. -/
def columnFlags : String :=
  "SELECT
        column_name::text,
        is_nullable = 'YES',
        is_identity = 'YES',
        is_generated = 'ALWAYS',
        column_default::text
    FROM information_schema.columns
    WHERE table_schema = $1 AND table_name = $2
    ORDER BY ordinal_position"

/-- The key constraints of a table, one row a column. -/
def keyConstraints : String :=
  "SELECT tc.constraint_name::text, tc.constraint_type::text, kcu.column_name::text
    FROM information_schema.table_constraints tc
    JOIN information_schema.key_column_usage kcu
      ON kcu.constraint_schema = tc.constraint_schema
     AND kcu.constraint_name = tc.constraint_name
     AND kcu.table_schema = tc.table_schema
     AND kcu.table_name = tc.table_name
    WHERE tc.table_schema = $1 AND tc.table_name = $2
      AND tc.constraint_type IN ('PRIMARY KEY', 'UNIQUE')
    ORDER BY tc.constraint_type, tc.constraint_name, kcu.ordinal_position"

/-- The foreign keys of a table, one row a pair of columns. -/
def foreignKeys : String :=
  "SELECT con.conname::text, a.attname::text, rn.nspname::text, rc.relname::text, ra.attname::text
    FROM pg_catalog.pg_constraint con
    JOIN pg_catalog.pg_class c ON c.oid = con.conrelid
    JOIN pg_catalog.pg_namespace n ON n.oid = c.relnamespace
    JOIN pg_catalog.pg_class rc ON rc.oid = con.confrelid
    JOIN pg_catalog.pg_namespace rn ON rn.oid = rc.relnamespace
    CROSS JOIN LATERAL unnest(con.conkey, con.confkey) WITH ORDINALITY AS k(attnum, refnum, ord)
    JOIN pg_catalog.pg_attribute a ON a.attrelid = con.conrelid AND a.attnum = k.attnum
    JOIN pg_catalog.pg_attribute ra ON ra.attrelid = con.confrelid AND ra.attnum = k.refnum
    WHERE con.contype = 'f' AND n.nspname = $1 AND c.relname = $2
    ORDER BY con.conname, k.ord"

/-- Routines with what they return, outside the schemas given. Members of extensions and trigger
functions are no routines of an application. -/
def routines : String :=
  "SELECT
        n.nspname::text,
        p.proname::text,
        (p.proname || '_' || p.oid)::text,
        p.prokind::text,
        CASE
            WHEN p.prokind = 'p' THEN NULL
            WHEN t.typtype = 'c' THEN tn.nspname || '.' || t.typname
            ELSE format_type(p.prorettype, NULL)
        END,
        p.proretset,
        pg_get_function_result(p.oid),
        obj_description(p.oid, 'pg_proc')
    FROM pg_catalog.pg_proc p
    JOIN pg_catalog.pg_namespace n ON n.oid = p.pronamespace
    JOIN pg_catalog.pg_type t ON t.oid = p.prorettype
    JOIN pg_catalog.pg_namespace tn ON tn.oid = t.typnamespace
    WHERE p.prokind IN ('f', 'p')
      AND n.nspname <> ALL($1)
      AND t.typname NOT IN ('trigger', 'event_trigger')
      AND NOT EXISTS (
          SELECT 1 FROM pg_catalog.pg_depend d
          WHERE d.objid = p.oid AND d.deptype = 'e'
      )
    ORDER BY n.nspname, p.proname, p.oid"

/-- The inputs of a routine. -/
def parameters : String :=
  "SELECT
        COALESCE(p.parameter_name::text, ''),
        p.ordinal_position::int4,
        CASE WHEN p.data_type IN ('USER-DEFINED', 'ARRAY') THEN p.udt_name::text
             ELSE p.data_type::text END,
        p.udt_schema::text,
        EXISTS (
            SELECT 1 FROM pg_catalog.pg_type t
            JOIN pg_catalog.pg_namespace tn ON tn.oid = t.typnamespace
            WHERE t.typname = p.udt_name AND tn.nspname = p.udt_schema AND t.typtype = 'c'
        ),
        p.parameter_default IS NOT NULL,
        p.parameter_mode = 'INOUT'
    FROM information_schema.parameters p
    WHERE p.specific_schema = $1 AND p.specific_name = $2
      AND p.parameter_mode IN ('IN', 'INOUT')
    ORDER BY p.ordinal_position"

/-- The outputs of a routine that returns a record of its parameters. -/
def outParameters : String :=
  "SELECT
        COALESCE(p.parameter_name::text, ''),
        p.ordinal_position::int4,
        CASE WHEN p.data_type IN ('USER-DEFINED', 'ARRAY') THEN p.udt_name::text
             ELSE p.data_type::text END,
        p.character_maximum_length::int4
    FROM information_schema.parameters p
    WHERE p.specific_schema = $1 AND p.specific_name = $2
      AND p.parameter_mode IN ('OUT', 'INOUT', 'TABLE')
    ORDER BY p.ordinal_position"

/-- A user-defined type, one row an attribute; enums and domains have none, and still one row. -/
def userType : String :=
  "SELECT
        a.attname::text,
        a.attnum::int4,
        format_type(a.atttypid, NULL),
        NOT a.attnotnull,
        CASE WHEN a.atttypid IN (1042, 1043) AND a.atttypmod > 4
             THEN a.atttypmod - 4 END,
        obj_description(t.oid, 'pg_type'),
        t.typtype::text,
        CASE WHEN t.typtype = 'd' THEN format_type(t.typbasetype, t.typtypmod) END
    FROM pg_catalog.pg_type t
    JOIN pg_catalog.pg_namespace n ON n.oid = t.typnamespace
    LEFT JOIN pg_catalog.pg_attribute a
        ON a.attrelid = t.typrelid AND a.attnum > 0 AND NOT a.attisdropped
    WHERE n.nspname = $1 AND t.typname = $2 AND t.typtype IN ('c', 'd', 'e')
    ORDER BY a.attnum"

end SchemaModel.Postgres.Statements
