import SchemaAtlas.Schema.Document
import SchemaAtlas.Sql.Script

/-! # Sample schemas

The catalogue of starter schemas, and looking one up by its id.
-/
namespace SchemaAtlas

structure Sample where
  id : String
  name : String
  description : String
  sql : String
  deriving DecidableEq, Repr

namespace Sample

def shop : Sample where
  id := "ecommerce"
  name := "E-Commerce"
  description := "Online store with users, products, orders and reviews."
  sql := "CREATE TABLE users (
  id INT PRIMARY KEY COMMENT 'User ID',
  email VARCHAR(255) NOT NULL COMMENT 'Login email',
  password_hash VARCHAR(255),
  created_at DATETIME
) COMMENT='Registered customers';

CREATE TABLE categories (
  id INT PRIMARY KEY,
  name VARCHAR(100),
  parent_id INT
);

CREATE TABLE products (
  id INT PRIMARY KEY,
  name VARCHAR(255),
  price DECIMAL(10,2),
  stock INT,
  category_id INT,
  CONSTRAINT fk_product_category FOREIGN KEY (category_id) REFERENCES categories (id)
);

CREATE TABLE orders (
  id INT PRIMARY KEY,
  user_id INT,
  total_amount DECIMAL(10,2),
  status ENUM('pending', 'paid', 'shipped'),
  created_at DATETIME,
  CONSTRAINT fk_order_user FOREIGN KEY (user_id) REFERENCES users (id)
);

CREATE TABLE order_items (
  id INT PRIMARY KEY,
  order_id INT,
  product_id INT,
  quantity INT,
  price DECIMAL(10,2),
  CONSTRAINT fk_item_order FOREIGN KEY (order_id) REFERENCES orders (id),
  CONSTRAINT fk_item_product FOREIGN KEY (product_id) REFERENCES products (id)
);

CREATE TABLE reviews (
  id INT PRIMARY KEY,
  user_id INT,
  product_id INT,
  rating INT,
  body TEXT,
  FOREIGN KEY (user_id) REFERENCES users (id),
  FOREIGN KEY (product_id) REFERENCES products (id)
);
"

/-- A publication with tags, whose join table has a primary key of two columns. -/
def blog : Sample where
  id := "blog"
  name := "Blog System"
  description := "Content management with posts, comments and tags."
  sql := "CREATE TABLE users (
  id INT PRIMARY KEY,
  username VARCHAR(50),
  bio TEXT
);

CREATE TABLE posts (
  id INT PRIMARY KEY,
  author_id INT,
  title VARCHAR(255),
  slug VARCHAR(255),
  content TEXT,
  published BOOLEAN,
  created_at DATETIME,
  FOREIGN KEY (author_id) REFERENCES users (id)
);

CREATE TABLE comments (
  id INT PRIMARY KEY,
  post_id INT,
  user_id INT,
  body TEXT,
  created_at DATETIME,
  FOREIGN KEY (post_id) REFERENCES posts (id),
  FOREIGN KEY (user_id) REFERENCES users (id)
);

CREATE TABLE tags (
  id INT PRIMARY KEY,
  name VARCHAR(50)
);

CREATE TABLE post_tags (
  post_id INT,
  tag_id INT,
  PRIMARY KEY (post_id, tag_id),
  FOREIGN KEY (post_id) REFERENCES posts (id),
  FOREIGN KEY (tag_id) REFERENCES tags (id)
);
"

def school : Sample where
  id := "school"
  name := "School Management"
  description := "Students, instructors, courses and enrollments, linked by naming convention."
  sql := "CREATE TABLE students (
  id INT PRIMARY KEY,
  first_name VARCHAR(50),
  last_name VARCHAR(50),
  enrollment_date DATE
);

CREATE TABLE instructors (
  id INT PRIMARY KEY,
  name VARCHAR(100),
  department VARCHAR(100)
);

CREATE TABLE courses (
  id INT PRIMARY KEY,
  title VARCHAR(100),
  credits INT,
  instructor_id INT
);

CREATE TABLE enrollments (
  id INT PRIMARY KEY,
  student_id INT,
  course_id INT,
  grade CHAR(2)
);
"

def catalogue : List Sample := [shop, blog, school]

def toValue (s : Sample) : Value :=
  .object [
    ("id", .str s.id),
    ("name", .str s.name),
    ("description", .str s.description),
    ("sql", .str s.sql)]

def find? (id : Value) : Option Sample :=
  catalogue.find? fun s => id = .str s.id

/-- The first of some entries with an id. Every entry up to it must have one. -/
def lookup (id : Value) : List Value → Except Fault Value
  | [] => .error (.unknownSample id.text)
  | entry :: rest => do
    if (← entry.need "id").key = id.key then return entry else lookup id rest

def graph (id : Value) : Except Fault Schema.Graph :=
  match find? id with
  | some s => .ok (Sql.parse s.sql)
  | none => .error (.unknownSample id.text)

end Sample

end SchemaAtlas
